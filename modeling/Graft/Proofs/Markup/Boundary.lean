import Graft.Proofs.Markup.Tag

/-!
# Graft.Proofs.Markup.Boundary

Where a token ends. A token that ends in front of a `<` is the same token when another `<` follows,
as long as what follows still ends a text or the content of a raw element.

* `Stops`: nothing, or something that begins with `<`.
* `untilClose_swap`, `commentSplit_swap`: comments.
* `Declared`: what a declaration is that ends in front of something, and `declaration_swap`.
* `Reread`: what a slice is read as where nothing follows it.
* `textRest_swap`, `rawRest_swap`, `scriptRest_swap`: texts.
* `contentRest_swap`: the content of raw elements.
-/

namespace Graft

/-! ## Starts of texts -/

namespace Bytes

theorem isPrefixOf_append_stop {p : Bytes} {b : UInt8} (hb : b ∉ p) (f u : Bytes) :
    p.isPrefixOf (f ++ b :: u) = p.isPrefixOf f := by
  induction p generalizing f with
  | nil => rw [List.isPrefixOf_nil_left, List.isPrefixOf_nil_left]
  | cons a p ih =>
    rw [List.mem_cons, not_or] at hb
    cases f with
    | nil =>
      have hab : (a == b) = false := beq_eq_false_iff_ne.2 fun h => hb.1 h.symm
      simp [List.isPrefixOf, hab]
    | cons c f => simp only [List.cons_append, List.isPrefixOf, ih hb.2]

end Bytes

namespace Markup

open Bytes

/-- Nothing follows, or something that begins with `<`. -/
def Stops (u : Bytes) : Prop := ∀ c ∈ u.head?, c = Byte.lt

theorem Stops.cases {u : Bytes} (h : Stops u) : u = [] ∨ ∃ w, u = Byte.lt :: w := by
  cases u with
  | nil => exact .inl rfl
  | cons c w => exact .inr ⟨w, by rw [h c rfl]⟩

theorem stops_cons (w : Bytes) : Stops (Byte.lt :: w) := by
  intro c hc
  exact (Option.some.inj hc).symm

theorem stops_of_startsMarkup {u : Bytes} (h : startsMarkup u = true) : Stops u := by
  intro c hc
  match u, h with
  | a :: b :: w, h =>
    simp only [startsMarkup, Bool.and_eq_true, beq_iff_eq] at h
    rw [← h.1]
    exact (Option.some.inj hc).symm

theorem stops_of_startsRawEnd {name u : Bytes} (h : startsRawEnd name u = true) : Stops u := by
  intro c hc
  match u, h with
  | a :: w, h =>
    simp only [startsRawEnd, List.isPrefixOf, Bool.and_eq_true, beq_iff_eq] at h
    rw [h.1.1]
    exact (Option.some.inj hc).symm

/-! ## Comments and declarations -/

theorem untilClose_append_gt {g : Bytes} (hgt : Byte.gt ∉ g) (v : Bytes) :
    untilClose (g ++ Byte.gt :: v) = (g, v) := by
  have hfree : ∀ b ∈ g, (b != Byte.gt) = true := by
    intro b hb
    rw [bne_iff_ne]
    rintro rfl
    exact hgt hb
  rw [untilClose, takeWhile_append_stop hfree (by decide), dropWhile_append_stop hfree (by decide)]
  rfl

/-- The `>` that ends a declaration belongs to it, and is the only one that does. -/
theorem untilClose_eq {f u : Bytes} (h : (untilClose (f ++ u)).2 = u) (hu : u ≠ []) :
    ∃ g, f = g ++ [Byte.gt] ∧ Byte.gt ∉ g := by
  unfold untilClose at h
  cases hd : (f ++ u).dropWhile (· != Byte.gt) with
  | nil => rw [hd] at h; exact absurd h.symm hu
  | cons c t =>
    rw [hd] at h
    have ht : t = u := h
    subst ht
    obtain ⟨t', hf, he⟩ := dropWhile_cut hd (Nat.le_refl _)
    have ht' : t' = [] := List.append_left_eq_self.1 he.symm
    subst ht'
    have hc : c = Byte.gt := by
      have := head_dropWhile hf
      simpa using this
    rw [hc] at hf
    refine ⟨f.takeWhile (· != Byte.gt), by rw [← hf, List.takeWhile_append_dropWhile], ?_⟩
    intro hgt
    simpa using List.all_eq_true.1 List.all_takeWhile _ hgt

theorem untilClose_swap {f u : Bytes} (h : (untilClose (f ++ u)).2 = u) (hu : u ≠ []) (v : Bytes) :
    untilClose (f ++ v) = ((untilClose (f ++ u)).1, v) := by
  obtain ⟨g, rfl, hgt⟩ := untilClose_eq h hu
  rw [← List.append_cons, ← List.append_cons, untilClose_append_gt hgt, untilClose_append_gt hgt]

theorem commentSplit_length (s : Bytes) :
    (commentSplit s).2 = [] ∨ (commentSplit s).2.length + 3 ≤ s.length := by
  induction s with
  | nil => exact .inl rfl
  | cons c rest ih =>
    unfold commentSplit
    dsimp only
    split
    · exact .inl rfl
    split
    · rename_i hp
      have hl := (List.isPrefixOf_iff_prefix.1 hp).length_le
      simp only [List.length_cons, List.length_nil, List.length_drop] at hl ⊢
      omega
    split
    · rename_i hp
      have hl := (List.isPrefixOf_iff_prefix.1 hp).length_le
      simp only [List.length_cons, List.length_nil, List.length_drop] at hl ⊢
      omega
    · rcases ih with h | h
      · exact .inl h
      · right
        simp only [List.length_cons]
        omega

theorem commentSplit_length_front {f u : Bytes} (h : (commentSplit (f ++ u)).2 = u) (hu : u ≠ []) :
    ∃ a b c g, f = a :: b :: c :: g := by
  rcases commentSplit_length (f ++ u) with hl | hl
  · exact absurd (h.symm.trans hl) hu
  · rw [h, List.length_append] at hl
    match f, hl with
    | a :: b :: c :: g, _ => exact ⟨a, b, c, g, rfl⟩
    | [], hl | [_], hl | [_, _], hl => simp only [List.length_cons, List.length_nil] at hl; omega

theorem drop_append_eq {f u : Bytes} {n : Nat} (h : (f ++ u).drop n = u) (hu : u ≠ []) :
    f.length = n := by
  have hl := congrArg List.length h
  have hpos := List.length_pos_iff.2 hu
  rw [List.length_drop, List.length_append] at hl
  omega

theorem commentSplit_long (c a b d : UInt8) (g : Bytes) :
    commentSplit (c :: a :: b :: d :: g) =
      if Byte.dash = c ∧ Byte.dash = a ∧ Byte.gt = b then ([], d :: g)
      else if Byte.dash = c ∧ Byte.dash = a ∧ Byte.bang = b ∧ Byte.gt = d then ([], g)
      else (c :: (commentSplit (a :: b :: d :: g)).1, (commentSplit (a :: b :: d :: g)).2) := by
  rw [commentSplit]
  dsimp only
  rw [if_neg (by simp)]
  simp only [List.isPrefixOf, Bool.and_eq_true, beq_iff_eq, and_true, List.drop_succ_cons,
    List.drop_zero]

theorem commentSplit_arrow (v : Bytes) :
    commentSplit (Byte.dash :: Byte.dash :: Byte.gt :: v) = ([], v) := by
  rw [commentSplit]
  dsimp only
  rw [if_neg (by simp [Byte.gt, Byte.bang]), if_pos (by simp [List.isPrefixOf])]
  rfl

theorem commentSplit_swap {f u : Bytes} (h : (commentSplit (f ++ u)).2 = u) (hu : u ≠ [])
    (v : Bytes) : commentSplit (f ++ v) = ((commentSplit (f ++ u)).1, v) := by
  induction f with
  | nil =>
    obtain ⟨a, b, c, g, hf⟩ := commentSplit_length_front h hu
    cases hf
  | cons c f ih =>
    obtain ⟨_, a, b, g, hf⟩ := commentSplit_length_front h hu
    cases hf
    cases g with
    | nil =>
      obtain ⟨d, w, rfl⟩ := List.exists_cons_of_ne_nil hu
      simp only [List.cons_append, List.nil_append] at h ih ⊢
      rw [commentSplit_long] at h ⊢
      split at h
      · rename_i hc
        obtain ⟨rfl, rfl, rfl⟩ := hc
        rw [if_pos ⟨rfl, rfl, rfl⟩, commentSplit_arrow]
      split at h
      · exact absurd h fun he => (List.cons_ne_self _ _) he.symm
      · obtain ⟨_, _, _, _, hf⟩ := commentSplit_length_front (f := [a, b]) h hu
        cases hf
    | cons d g =>
      simp only [List.cons_append] at h ih ⊢
      rw [commentSplit_long] at h ⊢
      rw [commentSplit_long]
      split at h
      · have hl := drop_append_eq (f := d :: g) (n := 0) h hu
        cases hl
      rename_i hc
      rw [if_neg hc, if_neg hc]
      split at h
      · rename_i hd
        have hl := drop_append_eq (n := 0) h hu
        rw [if_pos hd, if_pos hd, List.length_eq_zero_iff.1 hl]
        rfl
      · rename_i hd
        rw [if_neg hd, if_neg hd, ih h]

theorem readComment_swap {f u : Bytes} (h : (readComment (f ++ u)).2 = u) (hu : u ≠ []) (v : Bytes) :
    readComment (f ++ v) = ((readComment (f ++ u)).1, v) := by
  unfold readComment at h ⊢
  split at h
  · rename_i hp
    obtain ⟨a, rfl⟩ := List.length_eq_one_iff.1 (drop_append_eq h hu)
    rw [if_pos hp, if_pos (by simpa [List.isPrefixOf] using hp)]
    rfl
  rename_i hp
  split at h
  · rename_i hq
    obtain ⟨a, b, rfl⟩ : ∃ a b, f = [a, b] := by
      have hl := drop_append_eq h hu
      match f, hl with
      | [a, b], _ => exact ⟨a, b, rfl⟩
    rw [if_neg hp, if_pos hq, if_neg (by simpa [List.isPrefixOf] using hp),
      if_pos (by simpa [List.isPrefixOf] using hq)]
    rfl
  · rename_i hq
    obtain ⟨a, b, c, g, rfl⟩ := commentSplit_length_front h hu
    rw [if_neg hp, if_neg hq, if_neg (by simpa [List.isPrefixOf] using hp),
      if_neg (by simpa [List.isPrefixOf] using hq)]
    exact commentSplit_swap h hu v

/-- A reading of the same bytes in front of `v`. Only a comment at the very end reads differently. -/
def AgreeBefore (v : Bytes) (kind kind' : Token.Kind) : Prop :=
  kind' = kind ∨
    v = [] ∧ ∃ data data',
      kind = .comment (decodeComment data) ∧ kind' = .comment (decodeComment data')

theorem untilClose_dropWhile_swap {f u : Bytes}
    (h : (untilClose ((f ++ u).dropWhile Byte.isSpace)).2 = u) (hu : u ≠ []) (v : Bytes) :
    untilClose ((f ++ v).dropWhile Byte.isSpace) =
      ((untilClose ((f ++ u).dropWhile Byte.isSpace)).1, v) := by
  cases hd : (f ++ u).dropWhile Byte.isSpace with
  | nil => rw [hd] at h; exact absurd h.symm hu
  | cons c t =>
    rw [hd] at h
    have hl : u.length ≤ t.length := by
      have h1 := (List.dropWhile_suffix (l := c :: t) (· != Byte.gt)).length_le
      have h2 := congrArg List.length h
      simp only [untilClose, List.length_drop, List.length_cons] at h1 h2
      omega
    obtain ⟨t', hf, rfl⟩ := dropWhile_cut hd hl
    rw [dropWhile_append_cons hf]
    exact untilClose_swap (f := c :: t') h hu v

/-- A reading of the slice `f` in front of `v`. At the very end the `>` of `<!>` is data. -/
def Reread (f v : Bytes) (kind kind' : Token.Kind) : Prop :=
  kind' = kind ∨
    v = [] ∧ f = [Byte.lt, Byte.bang, Byte.gt] ∧ kind = .comment [] ∧ kind' = .comment [Byte.gt]

theorem declaration_dashes (s : Bytes) :
    declaration (Byte.dash :: Byte.dash :: s) =
      (.comment (decodeComment (readComment s).1), (readComment s).2) := by
  rw [declaration, if_neg (by simp), if_pos (by simp [List.isPrefixOf])]
  rfl

theorem declaration_doctypeWord {w : Bytes} (hw : w.lower = doctypeWord) (s : Bytes) :
    declaration (w ++ s) =
      (.doctype (decodeText (untilClose (s.dropWhile Byte.isSpace)).1),
        (untilClose (s.dropWhile Byte.isSpace)).2) := by
  have hlength : w.length = doctypeWord.length := by rw [← hw, length_lower]
  have hlen : ¬ (w ++ s).length ≤ 1 := by
    rw [List.length_append, hlength, show doctypeWord.length = 7 from rfl]
    omega
  have hdash : ¬ [Byte.dash, Byte.dash].isPrefixOf (w ++ s) = true := by
    intro h
    obtain ⟨t, ht⟩ := List.isPrefixOf_iff_prefix.1 h
    have hlower : lower [Byte.dash, Byte.dash] ++ lower t = doctypeWord ++ s.lower := by
      rw [← lower_append, ht, lower_append, hw]
    exact absurd (List.cons.inj hlower).1 (by decide)
  have hword : doctypeWord.isPrefixOf (w ++ s).lower = true := by
    rw [lower_append, hw, List.isPrefixOf_iff_prefix]
    exact List.prefix_append _ _
  rw [declaration, if_neg hlen, if_neg hdash, if_pos hword, List.drop_left' hlength]

theorem lower_append_gt (g v : Bytes) : (g ++ Byte.gt :: v).lower = g.lower ++ Byte.gt :: v.lower := by
  rw [lower_append]
  rfl

/-- Of a declaration that is neither a comment between dashes nor a doctype, and is not the last
thing in the source if it is empty. -/
theorem declaration_other {g v : Bytes} (hgt : Byte.gt ∉ g) (hdash : ¬ [Byte.dash, Byte.dash] <+: g)
    (hword : ¬ doctypeWord <+: g.lower) (hne : ¬ (g = [] ∧ v = [])) :
    declaration (g ++ Byte.gt :: v) = (.comment (decodeComment g), v) := by
  have hlen : ¬ (g ++ Byte.gt :: v).length ≤ 1 := by
    intro h
    rw [List.length_append, List.length_cons] at h
    exact hne ⟨List.length_eq_zero_iff.1 (by omega), List.length_eq_zero_iff.1 (by omega)⟩
  have hpart : ¬ (g ++ Byte.gt :: v).lower.isPrefixOf doctypeWord = true := by
    intro h
    have hmem : Byte.gt ∈ doctypeWord :=
      (List.isPrefixOf_iff_prefix.1 h).subset (by rw [lower_append_gt]; simp)
    exact absurd hmem (by decide)
  rw [← List.isPrefixOf_iff_prefix] at hdash hword
  rw [declaration, if_neg hlen, isPrefixOf_append_stop (by decide), if_neg hdash,
    lower_append_gt, isPrefixOf_append_stop (by decide), if_neg hword, ← lower_append_gt,
    if_neg hpart, untilClose_append_gt hgt]

/-- What a declaration is that ends in front of `u`. -/
inductive Declared (u : Bytes) : Bytes → Token.Kind → Prop where
  | dashes {g : Bytes} (h : (readComment (g ++ u)).2 = u) :
      Declared u (Byte.dash :: Byte.dash :: g) (.comment (decodeComment (readComment (g ++ u)).1))
  | doctype {w g : Bytes} (hw : w.lower = doctypeWord)
      (h : (untilClose ((g ++ u).dropWhile Byte.isSpace)).2 = u) :
      Declared u (w ++ g)
        (.doctype (decodeText (untilClose ((g ++ u).dropWhile Byte.isSpace)).1))
  | other {g : Bytes} (hgt : Byte.gt ∉ g) (hdash : ¬ [Byte.dash, Byte.dash] <+: g)
      (hword : ¬ doctypeWord <+: g.lower) : Declared u (g ++ [Byte.gt]) (.comment (decodeComment g))

theorem declared_doctype {f u : Bytes} {kind : Token.Kind}
    (hword : doctypeWord.isPrefixOf (f ++ u).lower = true)
    (h : (Token.Kind.doctype (decodeText
        (untilClose (((f ++ u).drop doctypeWord.length).dropWhile Byte.isSpace)).1),
      (untilClose (((f ++ u).drop doctypeWord.length).dropWhile Byte.isSpace)).2) = (kind, u)) :
    Declared u f kind := by
  obtain ⟨rfl, hrest⟩ := Prod.mk.inj h
  have hl := ((untilClose_suffix _).trans (List.dropWhile_suffix
    (l := (f ++ u).drop doctypeWord.length) Byte.isSpace)).length_le
  rw [hrest, List.length_drop, List.length_append] at hl
  have hwl := (List.isPrefixOf_iff_prefix.1 hword).length_le
  rw [length_lower, List.length_append] at hwl
  obtain ⟨w, g, hw, rfl⟩ : ∃ w g, w.length = doctypeWord.length ∧ f = w ++ g :=
    ⟨f.take _, f.drop _, List.length_take_of_le (by omega), (List.take_append_drop _ f).symm⟩
  rw [List.append_assoc, List.drop_left' hw] at hrest ⊢
  refine .doctype ?_ hrest
  rw [List.append_assoc, lower_append, List.isPrefixOf_iff_prefix] at hword
  have hfront := List.prefix_of_prefix_length_le hword (List.prefix_append _ _)
    (Nat.le_of_eq (by rw [length_lower, hw]))
  exact (hfront.eq_of_length (by rw [length_lower, hw])).symm

theorem declared_of_declaration {f u : Bytes} {kind : Token.Kind}
    (h : declaration (f ++ u) = (kind, u)) (hu : u ≠ []) : Declared u f kind := by
  unfold declaration at h
  split at h
  · exact absurd (congrArg Prod.snd h).symm hu
  rename_i hlen
  split at h
  · rename_i hp
    obtain rfl : .comment (decodeComment (readComment ((f ++ u).drop 2)).1) = kind :=
      congrArg Prod.fst h
    have hrest : (readComment ((f ++ u).drop 2)).2 = u := congrArg Prod.snd h
    have hl := (readComment_suffix ((f ++ u).drop 2)).length_le
    rw [hrest, List.length_drop, List.length_append] at hl
    rw [List.length_append] at hlen
    match f, hl with
    | a :: b :: g, _ =>
      obtain ⟨rfl, rfl⟩ : Byte.dash = a ∧ Byte.dash = b := by simpa [List.isPrefixOf] using hp
      exact .dashes hrest
    | [_], hl => simp only [List.length_cons, List.length_nil] at hl hlen; omega
    | [], hl => simp only [List.length_nil] at hl hlen; omega
  rename_i hp
  split at h
  · rename_i hword
    exact declared_doctype hword h
  rename_i hword
  split at h
  · exact absurd (congrArg Prod.snd h).symm hu
  · have hrest : (untilClose (f ++ u)).2 = u := congrArg Prod.snd h
    obtain ⟨g, rfl, hgt⟩ := untilClose_eq hrest hu
    rw [← List.append_cons] at h hp hword
    rw [untilClose_append_gt hgt] at h
    rw [isPrefixOf_append_stop (by decide), List.isPrefixOf_iff_prefix] at hp
    rw [lower_append_gt, isPrefixOf_append_stop (by decide), List.isPrefixOf_iff_prefix] at hword
    obtain rfl : .comment (decodeComment g) = kind := congrArg Prod.fst h
    exact .other hgt hp hword

theorem declaration_swap {f u : Bytes} {kind : Token.Kind} (h : declaration (f ++ u) = (kind, u))
    (hu : u ≠ []) (v : Bytes) :
    ∃ kind', declaration (f ++ v) = (kind', v) ∧
      Reread (Byte.lt :: Byte.bang :: f) v kind kind' := by
  cases declared_of_declaration h hu with
  | dashes hrest =>
    refine ⟨_, ?_, .inl rfl⟩
    rw [List.cons_append, List.cons_append, declaration_dashes, readComment_swap hrest hu v]
  | doctype hw hrest =>
    refine ⟨_, ?_, .inl rfl⟩
    rw [List.append_assoc, declaration_doctypeWord hw, untilClose_dropWhile_swap hrest hu v]
  | @other g hgt hdash hword =>
    rw [List.append_assoc]
    by_cases hnil : g = [] ∧ v = []
    · obtain ⟨rfl, rfl⟩ := hnil
      exact ⟨.comment [Byte.gt], by decide +kernel, .inr ⟨rfl, rfl, rfl, rfl⟩⟩
    · exact ⟨_, declaration_other hgt hdash hword hnil, .inl rfl⟩

/-! ## Texts -/

theorem startsMarkup_textRest {s : Bytes} (h : textRest s ≠ []) :
    startsMarkup (textRest s) = true := by
  induction s with
  | nil => exact absurd rfl h
  | cons c s ih =>
    unfold textRest at h ⊢
    split at h
    · rename_i hm
      rw [if_pos hm]
      exact hm
    · rename_i hm
      rw [if_neg hm]
      exact ih h

theorem startsMarkup_stop (c : UInt8) {u : Bytes} (hu : Stops u) : startsMarkup (c :: u) = false := by
  rcases hu.cases with rfl | ⟨w, rfl⟩
  · rfl
  · simp only [startsMarkup, Bool.and_eq_false_iff]
    exact .inr (by decide)

theorem textRest_swap {f u v : Bytes} (h : textRest (f ++ u) = u) (hu : u ≠ [])
    (hv : v = [] ∨ startsMarkup v = true) : textRest (f ++ v) = v := by
  have hstop : Stops v := by
    rcases hv with rfl | hv
    · intro c hc; cases hc
    · exact stops_of_startsMarkup hv
  induction f with
  | nil =>
    rcases hv with rfl | hv
    · rfl
    · obtain ⟨c, w, rfl⟩ : ∃ c w, v = c :: w := by
        cases v with
        | nil => cases hv
        | cons c w => exact ⟨c, w, rfl⟩
      rw [List.nil_append, textRest, if_pos hv]
  | cons c f ih =>
    rw [List.cons_append, textRest] at h ⊢
    split at h
    · exact absurd (drop_append_eq (f := c :: f) (n := 0) h hu) (by simp)
    rename_i hm
    have hm' : ¬ startsMarkup (c :: (f ++ v)) = true := by
      cases f with
      | nil => rw [List.nil_append, startsMarkup_stop c hstop]; decide
      | cons d f => exact hm
    rw [if_neg hm']
    exact ih h

/-! ## The content of raw elements -/

theorem namesTag_nil (s : Bytes) : namesTag [] s = s.head?.any endsRawName := by
  simp [namesTag]

theorem namesTag_cons (a : UInt8) (name : Bytes) (c : UInt8) (s : Bytes) :
    namesTag (a :: name) (c :: s) = (a == Byte.lower c && namesTag name s) := by
  simp only [namesTag, lower_cons, List.isPrefixOf, List.length_cons, List.drop_succ_cons,
    Bool.and_assoc]

theorem namesTag_stop {name u : Bytes} (hn : Byte.lt ∉ name) (hu : Stops u) :
    namesTag name u = false := by
  rcases hu.cases with rfl | ⟨w, rfl⟩
  · cases name <;> rfl
  · cases name with
    | nil => rw [namesTag_nil]; rfl
    | cons a name =>
      have ha : (a == Byte.lower Byte.lt) = false :=
        beq_eq_false_iff_ne.2 fun h => hn (by rw [h]; exact List.mem_cons_self ..)
      rw [namesTag_cons, ha, Bool.false_and]

/-- A `<` belongs to no name and ends none. -/
theorem namesTag_append_stop {name u : Bytes} (hn : Byte.lt ∉ name) (hu : Stops u) (f : Bytes) :
    namesTag name (f ++ u) = namesTag name f := by
  induction f generalizing name with
  | nil => rw [List.nil_append, namesTag_stop hn hu, namesTag_stop hn (by intro c hc; cases hc)]
  | cons c f ih =>
    cases name with
    | nil => rw [namesTag_nil, namesTag_nil]; rfl
    | cons a name =>
      rw [List.cons_append, namesTag_cons, namesTag_cons, ih fun h => hn (List.mem_cons_of_mem _ h)]

theorem startsRawEnd_append_stop {name u : Bytes} (hn : Byte.lt ∉ name) (hu : Stops u) (c : UInt8)
    (f : Bytes) : startsRawEnd name (c :: f ++ u) = startsRawEnd name (c :: f) := by
  cases f with
  | nil =>
    rcases hu.cases with rfl | ⟨w, rfl⟩
    · rfl
    · simp [startsRawEnd, List.isPrefixOf, Byte.slash, Byte.lt]
  | cons d f =>
    simp only [startsRawEnd, List.cons_append, List.isPrefixOf, List.drop_succ_cons, List.drop_zero,
      namesTag_append_stop hn hu]

theorem rawRest_swap {name f u v : Bytes} (hn : Byte.lt ∉ name) (h : rawRest name (f ++ u) = u)
    (hu : u = [] ∨ startsRawEnd name u = true) (hv : v = [] ∨ startsRawEnd name v = true) :
    rawRest name (f ++ v) = v := by
  have hstop {w : Bytes} (hw : w = [] ∨ startsRawEnd name w = true) : Stops w := by
    rcases hw with rfl | hw
    · intro c hc; cases hc
    · exact stops_of_startsRawEnd hw
  induction f with
  | nil =>
    cases v with
    | nil => rfl
    | cons c w =>
      rw [List.nil_append, rawRest, if_pos (hv.resolve_left (List.cons_ne_nil c w))]
  | cons c f ih =>
    rw [List.cons_append, rawRest, ← List.cons_append] at h ⊢
    rw [startsRawEnd_append_stop hn (hstop hv)]
    rw [startsRawEnd_append_stop hn (hstop hu)] at h
    split at h
    · have hlen := congrArg List.length h
      simp only [List.length_append, List.length_cons] at hlen
      omega
    · rename_i hs
      rw [if_neg hs]
      exact ih h

theorem scriptStep_append_stop {u : Bytes} (hu : Stops u) (state : ScriptState) (c : UInt8)
    (f : Bytes) : scriptStep state c (f ++ u) = scriptStep state c f := by
  have hn : Byte.lt ∉ scriptName := by decide
  have hends : startsRawEnd scriptName (c :: (f ++ u)) = startsRawEnd scriptName (c :: f) :=
    startsRawEnd_append_stop hn hu c f
  have hdash : [Byte.lt, Byte.bang, Byte.dash, Byte.dash].isPrefixOf (c :: (f ++ u)) =
      [Byte.lt, Byte.bang, Byte.dash, Byte.dash].isPrefixOf (c :: f) := by
    rcases hu.cases with rfl | ⟨w, rfl⟩
    · rw [List.append_nil]
    · simp only [List.isPrefixOf]
      rw [isPrefixOf_append_stop (by decide)]
  have hhead : (f ++ u).head? = some Byte.slash ↔ f.head? = some Byte.slash := by
    cases f with
    | nil => rcases hu.cases with rfl | ⟨w, rfl⟩ <;> simp [Byte.slash, Byte.lt]
    | cons d f => rfl
  have hletter : (f ++ u).head?.any Byte.isLetter = f.head?.any Byte.isLetter := by
    cases f with
    | nil => rcases hu.cases with rfl | ⟨w, rfl⟩ <;> rfl
    | cons d f => rfl
  simp only [scriptStep, hends, hdash, hhead, hletter, namesTag_append_stop hn hu]

/-- A script stops at an end tag, but not inside a `<script` of a `<!--` section. -/
theorem scriptStep_eq_none {state : ScriptState} {c : UInt8} {rest : Bytes} :
    scriptStep state c rest = none ↔
      startsRawEnd scriptName (c :: rest) = true ∧ ∀ n, state ≠ .doubleEscaped n := by
  cases state with
  | plain =>
    simp only [scriptStep]
    split
    · simp_all
    · split <;> simp_all
  | escaped n =>
    simp only [scriptStep]
    split
    · simp_all
    · rename_i hends
      simp only [hends, Bool.false_eq_true, false_and, iff_false]
      repeat' split
      all_goals exact Option.some_ne_none _
  | doubleEscaped n =>
    simp only [scriptStep, ne_eq, ScriptState.doubleEscaped.injEq, forall_eq', and_false, iff_false]
    repeat' split
    all_goals exact Option.some_ne_none _

theorem startsRawEnd_scriptRest (state : ScriptState) (skip : Nat) (s : Bytes) :
    scriptRest state skip s = [] ∨ startsRawEnd scriptName (scriptRest state skip s) = true := by
  fun_induction scriptRest state skip s with
  | case1 => exact .inl rfl
  | case2 _ _ _ _ ih => exact ih
  | case3 _ _ _ h => exact .inr (scriptStep_eq_none.1 h).1
  | case4 _ _ _ _ _ _ ih => exact ih

theorem scriptRest_swap {f u v : Bytes} {state : ScriptState} {skip : Nat}
    (h : scriptRest state skip (f ++ u) = u) (hu : startsRawEnd scriptName u = true)
    (hv : v = [] ∨ startsRawEnd scriptName v = true) : scriptRest state skip (f ++ v) = v := by
  have hstop : Stops v := by
    rcases hv with rfl | hv
    · intro c hc; cases hc
    · exact stops_of_startsRawEnd hv
  have hne : u ≠ [] := by rintro rfl; cases hu
  induction f generalizing state skip with
  | nil =>
    obtain ⟨c, w, rfl⟩ := List.exists_cons_of_ne_nil hne
    cases v with
    | nil => rfl
    | cons d y =>
      cases skip with
      | succ skip =>
        have hl := (scriptRest_suffix state skip w).length_le
        rw [List.nil_append, scriptRest] at h
        rw [h, List.length_cons] at hl
        omega
      | zero =>
        rw [List.nil_append, scriptRest] at h ⊢
        split at h
        · rename_i hs
          have hs' : scriptStep state d y = none := scriptStep_eq_none.2
            ⟨hv.resolve_left (List.cons_ne_nil d y), (scriptStep_eq_none.1 hs).2⟩
          rw [hs']
        · rename_i next skip _
          have hl := (scriptRest_suffix next skip w).length_le
          rw [h, List.length_cons] at hl
          omega
  | cons c f ih =>
    cases skip with
    | succ skip => exact ih h
    | zero =>
      rw [List.cons_append, scriptRest, scriptStep_append_stop (stops_of_startsRawEnd hu)] at h
      rw [List.cons_append, scriptRest, scriptStep_append_stop hstop]
      split at h
      · exact absurd (drop_append_eq (f := c :: f) (n := 0) h hne) (by simp)
      · exact ih h

theorem RawElement.lt_not_mem_name (element : RawElement) : Byte.lt ∉ element.name := by
  cases element <;> decide

theorem startsRawEnd_rawRest (name s : Bytes) :
    rawRest name s = [] ∨ startsRawEnd name (rawRest name s) = true := by
  induction s with
  | nil => exact .inl rfl
  | cons c s ih =>
    unfold rawRest
    split
    · rename_i hs
      exact .inr hs
    · exact ih

theorem startsRawEnd_contentRest (element : RawElement) (s : Bytes) :
    contentRest element s = [] ∨ startsRawEnd element.name (contentRest element s) = true := by
  cases element <;>
    first
      | exact .inl rfl
      | exact startsRawEnd_scriptRest _ _ _
      | exact startsRawEnd_rawRest _ _

theorem contentRest_swap {element : RawElement} {f u v : Bytes}
    (h : contentRest element (f ++ u) = u) (hu : u ≠ [])
    (hv : v = [] ∨ startsRawEnd element.name v = true) : contentRest element (f ++ v) = v := by
  have hs : startsRawEnd element.name u = true := by
    have := startsRawEnd_contentRest element (f ++ u)
    rw [h] at this
    exact this.resolve_left hu
  have hn := element.lt_not_mem_name
  cases element <;>
    first
      | exact absurd h.symm hu
      | exact scriptRest_swap h hs hv
      | exact rawRest_swap hn h (.inr hs) hv

/-! ## Texts without `<` -/

theorem startsMarkup_of_ne {c : UInt8} (hc : c ≠ Byte.lt) (s : Bytes) :
    startsMarkup (c :: s) = false := by
  cases s with
  | nil => rfl
  | cons d s => simp [startsMarkup, hc]

theorem startsRawEnd_of_ne {c : UInt8} (hc : c ≠ Byte.lt) (name s : Bytes) :
    startsRawEnd name (c :: s) = false := by
  simp [startsRawEnd, List.isPrefixOf, hc.symm]

theorem textRest_prepend {p : Bytes} (hp : Byte.lt ∉ p) (s : Bytes) :
    textRest (p ++ s) = textRest s := by
  induction p with
  | nil => rfl
  | cons c p ih =>
    rw [List.mem_cons, not_or] at hp
    rw [List.cons_append, textRest, startsMarkup_of_ne (Ne.symm hp.1), if_neg (by decide), ih hp.2]

theorem rawRest_prepend {p : Bytes} (hp : Byte.lt ∉ p) (name s : Bytes) :
    rawRest name (p ++ s) = rawRest name s := by
  induction p with
  | nil => rfl
  | cons c p ih =>
    rw [List.mem_cons, not_or] at hp
    rw [List.cons_append, rawRest, startsRawEnd_of_ne (Ne.symm hp.1), if_neg (by decide), ih hp.2]

theorem scriptRest_prepend {p : Bytes} (hp : Byte.lt ∉ p) (s : Bytes) :
    scriptRest .plain 0 (p ++ s) = scriptRest .plain 0 s := by
  induction p with
  | nil => rfl
  | cons c p ih =>
    rw [List.mem_cons, not_or] at hp
    have hstep : scriptStep .plain c (p ++ s) = some (.plain, 0) := by
      simp [scriptStep, startsRawEnd_of_ne (Ne.symm hp.1), List.isPrefixOf, hp.1]
    rw [List.cons_append, scriptRest, hstep]
    exact ih hp.2

theorem contentRest_prepend {p : Bytes} (hp : Byte.lt ∉ p) (element : RawElement) (s : Bytes) :
    contentRest element (p ++ s) = contentRest element s := by
  cases element <;>
    first
      | rfl
      | exact scriptRest_prepend hp s
      | exact rawRest_prepend hp _ s

theorem textRest_of_startsMarkup {s : Bytes} (h : startsMarkup s = true) : textRest s = s := by
  cases s with
  | nil => rfl
  | cons c s => rw [textRest, if_pos h]

end Markup

end Graft
