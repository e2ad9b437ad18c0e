import Graft.Proofs.Markup.Run

/-!
# Graft.Proofs.Markup.Ended

What a run opens it also ends, as long as it does not stop inside.

* `EndedComment`: the slice of a comment up to its end.
* `commentSplit_eq`, `endedComment_of_untagged`: a comment in front of something has its end.
* `EndedRaw`: tokens that begin with the content of a raw element and its end tag.
* `Steps.endedComment`, `Steps.endedRaw`: a run.
-/

namespace Graft.Markup

/-! ## Comments -/

/-- The slice of a comment with its end. One that does not begin with `<!--` has its first `>` there. -/
inductive EndedComment : Bytes → Prop where
  | empty : EndedComment "<!-->"
  | dash : EndedComment "<!--->"
  | arrow (body : Bytes) : EndedComment ("<!--" ++ body ++ "-->")
  | bang (body : Bytes) : EndedComment ("<!--" ++ body ++ "--!>")
  | other {body : Bytes} (hopen : ¬ "<!--" <+: body) (hgt : Byte.gt ∉ body) :
      EndedComment (body ++ ">")

theorem commentSplit_eq {f u : Bytes} (h : (commentSplit (f ++ u)).2 = u) (hu : u ≠ []) :
    ∃ body : Bytes, f = body ++ "-->" ∨ f = body ++ "--!>" := by
  induction f with
  | nil =>
    obtain ⟨a, b, c, g, hf⟩ := commentSplit_length_front h hu
    cases hf
  | cons c f ih =>
    obtain ⟨_, a, b, g, hf⟩ := commentSplit_length_front h hu
    cases hf
    -- three bytes can only be an end themselves, one of four can also stand behind the first byte
    cases g with
    | nil =>
      obtain ⟨d, w, rfl⟩ := List.exists_cons_of_ne_nil hu
      simp only [List.cons_append, List.nil_append] at h
      rw [commentSplit_long] at h
      split at h
      · rename_i hc
        obtain ⟨rfl, rfl, rfl⟩ := hc
        exact ⟨[], .inl rfl⟩
      split at h
      · exact absurd h fun he => (List.cons_ne_self _ _) he.symm
      · obtain ⟨_, _, _, _, hf⟩ := commentSplit_length_front (f := [a, b]) h hu
        cases hf
    | cons d g =>
      simp only [List.cons_append] at h ih
      rw [commentSplit_long] at h
      split at h
      · have hlength := drop_append_eq (f := d :: g) (n := 0) h hu
        cases hlength
      split at h
      · rename_i hc
        obtain ⟨rfl, rfl, rfl, rfl⟩ := hc
        obtain rfl := List.length_eq_zero_iff.1 (drop_append_eq (n := 0) h hu)
        exact ⟨[], .inr rfl⟩
      · obtain ⟨body, hbody | hbody⟩ := ih h
        · exact ⟨c :: body, .inl (by rw [hbody]; rfl)⟩
        · exact ⟨c :: body, .inr (by rw [hbody]; rfl)⟩

theorem readComment_eq {f u : Bytes} (h : (readComment (f ++ u)).2 = u) (hu : u ≠ []) :
    EndedComment ("<!--" ++ f) := by
  unfold readComment at h
  split at h
  · rename_i hp
    obtain ⟨a, rfl⟩ := List.length_eq_one_iff.1 (drop_append_eq h hu)
    have ha : Byte.gt = a := by simpa [List.isPrefixOf] using hp
    rw [← ha]
    exact .empty
  split at h
  · rename_i hp
    obtain ⟨a, b, rfl⟩ : ∃ a b, f = [a, b] := by
      have hl := drop_append_eq h hu
      match f, hl with
      | [a, b], _ => exact ⟨a, b, rfl⟩
    have hab : Byte.dash = a ∧ Byte.gt = b := by simpa [List.isPrefixOf] using hp
    rw [← hab.1, ← hab.2]
    exact .dash
  · obtain ⟨body, rfl | rfl⟩ := commentSplit_eq h hu
    · rw [← List.append_assoc]
      exact .arrow body
    · rw [← List.append_assoc]
      exact .bang body

theorem not_opens_of_ne {d : UInt8} (hd : d ≠ Byte.bang) (s : Bytes) :
    ¬ "<!--" <+: Byte.lt :: d :: s := by
  intro h
  have hrest : Bytes.ofString "!--" <+: d :: s := (List.prefix_cons_inj Byte.lt).1 h
  exact hd (List.cons_prefix_cons.1 hrest).1.symm

theorem endedComment_of_second {d : UInt8} {b : Bytes} (hd : d ≠ Byte.bang) (hgt : Byte.gt ∉ d :: b) :
    EndedComment (Byte.lt :: d :: (b ++ [Byte.gt])) := by
  have hfree : Byte.gt ∉ Byte.lt :: d :: b := by
    rw [List.mem_cons, not_or]
    exact ⟨by decide, hgt⟩
  exact @EndedComment.other (Byte.lt :: d :: b) (not_opens_of_ne hd b) hfree

theorem endedComment_of_declaration {f u data : Bytes} (h : declaration (f ++ u) = (.comment data, u))
    (hu : u ≠ []) : EndedComment (Byte.lt :: Byte.bang :: f) := by
  cases declared_of_declaration h hu with
  | dashes hrest => exact readComment_eq hrest hu
  | @other g hgt hdash _ =>
    have hfree : Byte.gt ∉ Byte.lt :: Byte.bang :: g := by
      rw [List.mem_cons, List.mem_cons, not_or, not_or]
      exact ⟨by decide, by decide, hgt⟩
    refine @EndedComment.other (Byte.lt :: Byte.bang :: g) (fun hopen => ?_) hfree
    exact hdash ((List.prefix_cons_inj Byte.bang).1 ((List.prefix_cons_inj Byte.lt).1 hopen))

theorem endedComment_of_untagged {f u data : Bytes} (h : Untagged u f (.comment data))
    (hu : u ≠ []) : EndedComment f := by
  cases h with
  | @endLike b hgt _ =>
    refine endedComment_of_second (by decide) ?_
    rw [List.mem_cons, not_or]
    exact ⟨by decide, hgt⟩
  | declared h => exact endedComment_of_declaration h hu
  | @question b hgt =>
    refine endedComment_of_second (by decide) ?_
    rw [List.mem_cons, not_or]
    exact ⟨by decide, hgt⟩

theorem Steps.endedComment {m m' : Mode} {s x : Bytes} {ts : List Token} (h : Steps m s ts m' x)
    (hx : x ≠ []) {t : Token} (ht : t ∈ ts) {data : Bytes} (hk : t.kind = .comment data) :
    EndedComment t.raw := by
  obtain ⟨front, behind, rfl⟩ := List.append_of_mem ht
  obtain ⟨mode, s', _, hrest⟩ := h.split
  have hscan := hrest.cases_cons.1
  have hu : slices behind ++ x ≠ [] := fun hnil => hx (List.append_eq_nil_iff.1 hnil).2
  cases mode with
  | raw element =>
    rcases scan_raw_cases hscan with ⟨_, htext⟩ | ⟨_, name, hclose, _⟩
    · rw [hk] at htext; cases htext
    · rw [hclose.kind] at hk; cases hk
  | markup =>
    cases scanned_of_scanMarkup hscan with
    | comment hs hm _ =>
      rw [hk] at hm
      exact endedComment_of_untagged (untagged_of_markup? hs hm hu nofun nofun nofun) hu
    | text _ _ hk' | doctype _ _ hk' | cut _ hk' => rw [hk] at hk'; cases hk'
    | closeTag hclose => rw [hclose.kind] at hk; cases hk
    | openTag hopen =>
      have hkind := hopen.kind
      rw [hk] at hkind
      split at hkind <;> cases hkind

/-! ## Raw elements -/

/-- Tokens that begin with the content of a raw element, if it has any, and its end tag. -/
inductive EndedRaw (element : RawElement) : List Token → Prop where
  | empty {stop : Token} {behind : List Token} (hstop : stop.kind = .endTag element.name) :
      EndedRaw element (stop :: behind)
  | filled {text stop : Token} {behind : List Token}
      (htext : text.kind = .text (decodeRaw element text.raw))
      (hstop : stop.kind = .endTag element.name) : EndedRaw element (text :: stop :: behind)

theorem EndsInRaw.append {element : RawElement} {m : Mode} {t : Token} {ts : List Token}
    (h : EndsInRaw element t.mode ts) (front : List Token) :
    EndsInRaw element m (front ++ t :: ts) := by
  induction front generalizing m with
  | nil => exact .inr h
  | cons t' front ih => exact .inr ih

/-- A run behind the start tag of a raw element, unless it stops inside. -/
theorem Steps.endedRaw_of_opened {element : RawElement} {m' : Mode} {s x : Bytes} {ts : List Token}
    (h : Steps (.raw element) s ts m' x) (hend : ¬ EndsInRaw element (.raw element) ts) :
    EndedRaw element ts := by
  cases ts with
  | nil => exact absurd rfl hend
  | cons t ts =>
    obtain ⟨hscan, hrest⟩ := h.cases_cons
    rcases scan_raw_cases hscan with ⟨hcontent, htext⟩ | ⟨_, name, hclose, hname⟩
    · cases ts with
      | nil => exact absurd (.inl ⟨rfl, rfl, _, htext⟩) hend
      | cons stop ts =>
        have hmode : t.mode = .markup := by rw [Token.mode, htext]
        rw [hmode] at hrest
        have hstart := startsRawEnd_contentRest element (t.raw ++ (slices (stop :: ts) ++ x))
        rw [hcontent, slices_cons, List.append_assoc] at hstart
        have hstop := hrest.cases_cons.1
        have hne : stop.raw ++ (slices ts ++ x) ≠ [] :=
          List.append_ne_nil_of_left_ne_nil (scan_raw_ne_nil hstop) _
        obtain ⟨name, hclose, hname⟩ := closeTag_of_startsRawEnd hstop (hstart.resolve_left hne)
        exact .filled htext (hname ▸ hclose.kind)
    · exact .empty (hname ▸ hclose.kind)

/-- Every raw element that a run opens it ends, unless it stops inside one. -/
theorem Steps.endedRaw {m m' : Mode} {s x : Bytes} {ts : List Token} (h : Steps m s ts m' x)
    (hend : ∀ element, ¬ EndsInRaw element m ts) {front behind : List Token} {t : Token}
    (hsplit : ts = front ++ t :: behind) {element : RawElement} (hmode : t.mode = .raw element) :
    EndedRaw element behind := by
  subst hsplit
  obtain ⟨mode, s', _, hrest⟩ := h.split
  have hbehind := hrest.cases_cons.2
  rw [hmode] at hbehind
  refine hbehind.endedRaw_of_opened fun he => ?_
  rw [← hmode] at he
  exact hend element (he.append front)

end Graft.Markup
