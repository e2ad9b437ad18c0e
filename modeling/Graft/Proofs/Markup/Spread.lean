import Graft.Proofs.Markup.Content
import Graft.Proofs.Markup.WrittenTag

/-!
# Graft.Proofs.Markup.Spread

Filler behind some of the `>` of a source. It may get into a text, into a comment or into the value of
an attribute, but there is no reader that takes it for markup: each of them stops at the same place.

* `Spread`: a source and the same with filler behind some of its `>`.
* `Trails`: the rest of both, with filler in front of the second one.
* `Spread.textRest`, `Spread.contentRest`: the end of a text.
* `Passed`, `Ended`, `Spread.readTag?`: the end of a tag.
* `Spread.declaration`: the end of a comment or a doctype.
-/

namespace Graft.Markup

open Bytes

/-- What filler is made of. -/
def Fills (f : Bytes) : Prop := ∀ c ∈ f, c = Byte.slash ∨ c = Byte.lf

/-- A source and the same with filler behind some of its `>`. -/
inductive Spread : Bytes → Bytes → Prop where
  | nil : Spread [] []
  | cons {c : UInt8} {s s' : Bytes} (hc : c ≠ Byte.gt) (h : Spread s s') : Spread (c :: s) (c :: s')
  | fill {f s s' : Bytes} (hf : Fills f) (h : Spread s s') :
      Spread (Byte.gt :: s) (Byte.gt :: (f ++ s'))

/-- A source, and a spread one behind filler. -/
def Trails (s s' : Bytes) : Prop := ∃ f r, Fills f ∧ Spread s r ∧ s' = f ++ r

theorem Fills.not_mem {f : Bytes} (h : Fills f) {c : UInt8} (hs : c ≠ Byte.slash)
    (hl : c ≠ Byte.lf) : c ∉ f := fun hc => (h c hc).elim hs hl

theorem fills_nil : Fills [] := List.forall_mem_nil _

namespace Spread

variable {s s' : Bytes}

theorem trails (h : Spread s s') : Trails s s' := ⟨[], s', fills_nil, h, rfl⟩

theorem refl (s : Bytes) : Spread s s := by
  induction s with
  | nil => exact .nil
  | cons c s ih =>
    by_cases hc : c = Byte.gt
    · subst hc
      exact .fill fills_nil ih
    · exact .cons hc ih

theorem append (h : Spread s s') {t t' : Bytes} (ht : Spread t t') : Spread (s ++ t) (s' ++ t') := by
  induction h with
  | nil => exact ht
  | cons hc _ ih => exact .cons hc ih
  | fill hf _ ih =>
    rw [List.cons_append, List.cons_append, List.append_assoc]
    exact .fill hf ih

theorem head?_eq (h : Spread s s') : s'.head? = s.head? := by
  cases h <;> rfl

theorem lower (h : Spread s s') : Spread s.lower s'.lower := by
  induction h with
  | nil => exact .nil
  | @cons c _ _ hc _ ih =>
    refine .cons (fun hgt => hc ?_) ih
    unfold Byte.lower at hgt
    split at hgt
    · rename_i hu
      have hc' : c = Byte.gt - 0x20 := by rw [← hgt]; simp
      rw [hc'] at hu
      exact absurd hu (by decide)
    · exact hgt
  | @fill f _ _ hf _ ih =>
    have hsame : f.lower = f := by
      refine (List.map_congr_left fun c hc => ?_).trans (List.map_id f)
      rcases hf c hc with rfl | rfl <;> rfl
    rw [Bytes.lower, Bytes.lower, List.map_cons, List.map_cons, List.map_append]
    exact .fill (by rw [← Bytes.lower, hsame]; exact hf) ih

/-- A word whose only `>` is its last byte is there in both or in none. -/
theorem isPrefixOf_eq {p : Bytes} (hp : Byte.gt ∉ p.dropLast) (h : Spread s s') :
    p.isPrefixOf s' = p.isPrefixOf s := by
  induction p generalizing s s' with
  | nil => rw [List.isPrefixOf_nil_left, List.isPrefixOf_nil_left]
  | cons a p ih =>
    cases p with
    | nil => cases h <;> simp [List.isPrefixOf]
    | cons b p =>
      rw [List.dropLast_cons_of_ne_nil (by simp), List.mem_cons, not_or] at hp
      cases h with
      | nil => rfl
      | cons _ h => simp only [List.isPrefixOf, ih hp.2 h]
      | fill =>
        rw [List.isPrefixOf, List.isPrefixOf, beq_false_of_ne (Ne.symm hp.1), Bool.false_and]
        rfl

/-- A source is the beginning of a word without `>` exactly if the other is. -/
theorem isPrefixOf_word {p : Bytes} (hp : Byte.gt ∉ p) (h : Spread s s') :
    s'.isPrefixOf p = s.isPrefixOf p := by
  induction h generalizing p with
  | nil => rfl
  | cons _ _ ih =>
    cases p with
    | nil => rfl
    | cons a p =>
      rw [List.mem_cons, not_or] at hp
      simp only [List.isPrefixOf, ih hp.2]
  | fill =>
    cases p with
    | nil => rfl
    | cons a p =>
      rw [List.mem_cons, not_or] at hp
      rw [List.isPrefixOf, List.isPrefixOf, beq_false_of_ne hp.1, Bool.false_and, Bool.false_and]

theorem drop_word {p : Bytes} (hp : Byte.gt ∉ p) (h : Spread (p ++ s) s') :
    ∃ r, s' = p ++ r ∧ Spread s r := by
  induction p generalizing s' with
  | nil => exact ⟨s', rfl, h⟩
  | cons a p ih =>
    rw [List.mem_cons, not_or] at hp
    rw [List.cons_append] at h
    cases h with
    | cons _ h =>
      obtain ⟨r, rfl, hr⟩ := ih hp.2 h
      exact ⟨r, rfl, hr⟩
    | fill => exact absurd rfl hp.1

theorem drop_gt {s s' : Bytes} (h : Spread (Byte.gt :: s) s') :
    ∃ r, s' = Byte.gt :: r ∧ Trails s r := by
  cases h with
  | cons hc => exact absurd rfl hc
  | fill hf h => exact ⟨_, rfl, _, _, hf, h, rfl⟩

/-! ## Texts and raw contents -/

theorem startsMarkup_eq (h : Spread s s') : startsMarkup s' = startsMarkup s := by
  cases h with
  | nil => rfl
  | cons _ h => cases h <;> rfl
  | fill => rw [startsMarkup_of_ne (by decide), startsMarkup_of_ne (by decide)]

theorem textRest (h : Spread s s') : Spread (textRest s) (textRest s') := by
  induction h with
  | nil => exact .nil
  | cons hc h ih =>
    rw [Markup.textRest, Markup.textRest, (Spread.cons hc h).startsMarkup_eq]
    split
    · exact .cons hc h
    · exact ih
  | @fill f s s' hf h ih =>
    have hlt : Byte.lt ∉ f := hf.not_mem (by decide) (by decide)
    rw [Markup.textRest, Markup.textRest, startsMarkup_of_ne (by decide),
      startsMarkup_of_ne (by decide), if_neg (by decide), if_neg (by decide), textRest_prepend hlt]
    exact ih

theorem namesTag_eq {name : Bytes} (hn : ∀ a ∈ name, Byte.isLetter a = true) (h : Spread s s') :
    namesTag name s' = namesTag name s := by
  induction name generalizing s s' with
  | nil => rw [namesTag_nil, namesTag_nil, h.head?_eq]
  | cons a name ih =>
    cases h with
    | nil => rfl
    | cons _ h =>
      rw [namesTag_cons, namesTag_cons, ih (fun b hb => hn b (List.mem_cons_of_mem _ hb)) h]
    | fill =>
      have ha : (a == Byte.lower Byte.gt) = false :=
        beq_eq_false_iff_ne.2 fun he => by
          have hletter := hn a (List.mem_cons_self ..)
          rw [he] at hletter
          exact absurd hletter (by decide)
      rw [namesTag_cons, namesTag_cons, ha, Bool.false_and, Bool.false_and]

theorem startsRawEnd_eq {name : Bytes} (hn : ∀ a ∈ name, Byte.isLetter a = true) {c : UInt8}
    (h : Spread s s') : startsRawEnd name (c :: s') = startsRawEnd name (c :: s) := by
  cases h with
  | nil => rfl
  | cons _ h =>
    simp only [startsRawEnd, List.isPrefixOf, List.drop_succ_cons, List.drop_zero, h.namesTag_eq hn]
  | fill => simp [startsRawEnd, List.isPrefixOf, Byte.slash, Byte.gt]

theorem rawRest {name : Bytes} (hn : ∀ a ∈ name, Byte.isLetter a = true) (h : Spread s s') :
    Spread (rawRest name s) (rawRest name s') := by
  induction h with
  | nil => exact .nil
  | cons hc h ih =>
    rw [Markup.rawRest, Markup.rawRest, h.startsRawEnd_eq hn]
    split
    · exact .cons hc h
    · exact ih
  | @fill f s s' hf h ih =>
    have hlt : Byte.lt ∉ f := hf.not_mem (by decide) (by decide)
    rw [Markup.rawRest, Markup.rawRest, startsRawEnd_of_ne (by decide),
      startsRawEnd_of_ne (by decide), if_neg (by decide), if_neg (by decide), rawRest_prepend hlt]
    exact ih

end Spread

/-- The bytes still to skip hold no `>`, but for the last one in a settled state. -/
def Skipping (state : ScriptState) : Nat → Bytes → Prop
  | 0, _ => True
  | _ + 1, [] => True
  | k + 1, c :: s => (c = Byte.gt → k = 0 ∧ state.settle = state) ∧ Skipping state k s

theorem skipping_of_namesTag {name s : Bytes} {state : ScriptState}
    (hn : ∀ a ∈ name, Byte.isLetter a = true) (hstate : state.settle = state)
    (h : namesTag name s = true) : Skipping state (name.length + 1) s := by
  induction name generalizing s with
  | nil =>
    cases s with
    | nil => trivial
    | cons c s => exact ⟨fun _ => ⟨rfl, hstate⟩, trivial⟩
  | cons a name ih =>
    cases s with
    | nil => trivial
    | cons c s =>
      rw [namesTag_cons, Bool.and_eq_true, beq_iff_eq] at h
      refine ⟨?_, ih (fun b hb => hn b (List.mem_cons_of_mem _ hb)) h.2⟩
      rintro rfl
      have ha := hn a (List.mem_cons_self ..)
      rw [h.1] at ha
      exact absurd ha (by decide)

theorem skipping_of_scriptStep {state next : ScriptState} {c : UInt8} {rest : Bytes} {skip : Nat}
    (h : scriptStep state c rest = some (next, skip)) : Skipping next skip rest := by
  cases state with
  | plain =>
    simp only [scriptStep] at h
    split at h
    · cases h
    split at h
    · rename_i hp
      cases h
      obtain ⟨s, hs⟩ := List.isPrefixOf_iff_prefix.1 hp
      obtain ⟨_, rfl⟩ := List.cons.inj hs
      simp [Skipping, Byte.bang, Byte.dash, Byte.gt]
    · cases h
      trivial
  | escaped n =>
    simp only [scriptStep] at h
    split at h
    · cases h
    split at h
    · split at h
      · rename_i hs
        cases h
        obtain ⟨s, rfl⟩ := List.head?_eq_some_iff.1 hs
        simp [Skipping, Byte.slash, Byte.gt]
      split at h
      · rename_i hn
        cases h
        exact skipping_of_namesTag scriptName_letters rfl hn
      split at h <;> (cases h; trivial)
    split at h
    · cases h; trivial
    split at h <;> (cases h; trivial)
  | doubleEscaped n =>
    simp only [scriptStep] at h
    split at h
    · rename_i hends
      cases h
      cases rest with
      | nil => trivial
      | cons a s =>
        simp only [startsRawEnd, List.isPrefixOf, Bool.and_eq_true, beq_iff_eq, List.drop_succ_cons,
          List.drop_zero] at hends
        obtain ⟨⟨_, rfl, _⟩, hn⟩ := hends
        exact ⟨fun hgt => absurd hgt (by decide), skipping_of_namesTag scriptName_letters rfl hn⟩
    split at h
    · cases h; trivial
    split at h <;> (cases h; trivial)

/-- A `>` that is not skipped settles a script, whatever follows. -/
theorem scriptStep_gt (state : ScriptState) :
    ∃ next : ScriptState, next.settle = next ∧
      ∀ rest, scriptStep state Byte.gt rest = some (next, 0) := by
  have hends (rest : Bytes) : startsRawEnd scriptName (Byte.gt :: rest) = false :=
    startsRawEnd_of_ne (by decide) _ rest
  cases state with
  | plain =>
    exact ⟨.plain, rfl, fun rest => by simp [scriptStep, hends, List.isPrefixOf, Byte.gt, Byte.lt]⟩
  | escaped n =>
    by_cases hn : 2 ≤ n
    · exact ⟨.plain, rfl, fun rest => by simp [scriptStep, hends, hn, Byte.gt, Byte.lt, Byte.dash]⟩
    · exact ⟨.escaped 0, rfl, fun rest => by simp [scriptStep, hends, hn, Byte.gt, Byte.lt, Byte.dash]⟩
  | doubleEscaped n =>
    by_cases hn : 2 ≤ n
    · exact ⟨.plain, rfl, fun rest => by simp [scriptStep, hends, hn, Byte.gt, Byte.dash]⟩
    · exact ⟨.doubleEscaped 0, rfl, fun rest => by simp [scriptStep, hends, hn, Byte.gt, Byte.dash]⟩

theorem scriptRest_fills {f : Bytes} (hf : Fills f) {state : ScriptState}
    (hstate : state.settle = state) (s : Bytes) :
    scriptRest state 0 (f ++ s) = scriptRest state 0 s := by
  induction f with
  | nil => rfl
  | cons c f ih =>
    rw [Fills, List.forall_mem_cons] at hf
    have hidle : isIdle c = true := by rcases hf.1 with rfl | rfl <;> decide
    rw [List.cons_append, scriptRest_idle hidle, hstate, ih hf.2]

namespace Spread

variable {s s' : Bytes}

theorem scriptStep_eq {state : ScriptState} {c : UInt8} (h : Spread s s') :
    scriptStep state c s' = scriptStep state c s := by
  have hends : startsRawEnd scriptName (c :: s') = startsRawEnd scriptName (c :: s) :=
    h.startsRawEnd_eq scriptName_letters
  have hdash : [Byte.lt, Byte.bang, Byte.dash, Byte.dash].isPrefixOf (c :: s') =
      [Byte.lt, Byte.bang, Byte.dash, Byte.dash].isPrefixOf (c :: s) := by
    simp only [List.isPrefixOf]
    rw [h.isPrefixOf_eq (by decide)]
  simp only [scriptStep, hends, hdash, h.head?_eq, h.namesTag_eq scriptName_letters]

theorem scriptRest (h : Spread s s') :
    ∀ {state : ScriptState} {skip : Nat}, Skipping state skip s →
      Spread (scriptRest state skip s) (scriptRest state skip s') := by
  induction h with
  | nil => intro state skip _; cases skip <;> exact .nil
  | @cons c s s' hc h ih =>
    intro state skip hskip
    cases skip with
    | succ skip => exact ih hskip.2
    | zero =>
      rw [Markup.scriptRest, Markup.scriptRest, h.scriptStep_eq]
      split
      · exact .cons hc h
      · rename_i hstep
        exact ih (skipping_of_scriptStep hstep)
  | @fill f s s' hf h ih =>
    intro state skip hskip
    cases skip with
    | succ skip =>
      -- filler may not be skipped in place of what follows it, so the `>` is the last one skipped
      obtain ⟨rfl, hstate⟩ := hskip.1 rfl
      rw [Markup.scriptRest, Markup.scriptRest, scriptRest_fills hf hstate]
      exact ih trivial
    | zero =>
      obtain ⟨next, hsettled, hstep⟩ := scriptStep_gt state
      rw [Markup.scriptRest, Markup.scriptRest, hstep, hstep]
      dsimp only
      rw [scriptRest_fills hf hsettled]
      exact ih trivial

theorem contentRest (h : Spread s s') (element : RawElement) :
    Spread (contentRest element s) (contentRest element s') := by
  have hletters : ∀ a ∈ element.name, Byte.isLetter a = true := by
    cases element <;> exact forall_mem_of_all (by decide)
  cases element <;>
    first
      | exact .nil
      | exact h.scriptRest trivial
      | exact h.rawRest hletters

end Spread

/-! ## Tags -/

section

variable {α α' β β' : Type} {r : α → α' → Prop} {q : β → β' → Prop} {x : Option α} {x' : Option α'}

theorem rel_imp {p : α → α' → Prop} (h : Option.Rel r x x') (hp : ∀ a a', r a a' → p a a') :
    Option.Rel p x x' := by
  cases h with
  | none => exact .none
  | some h => exact .some (hp _ _ h)

theorem rel_map {f : α → β} {f' : α' → β'} (h : Option.Rel r x x')
    (hf : ∀ a a', r a a' → q (f a) (f' a')) : Option.Rel q (x.map f) (x'.map f') := by
  cases h with
  | none => exact .none
  | some h => exact .some (hf _ _ h)

end

/-- Readers at corresponding places of two sources, with the same byte behind them. -/
def Passed (s s' r r' : Bytes) : Prop :=
  Spread r r' ∧ ∃ w w', s = w ++ r ∧ s' = w' ++ r' ∧ w.getLast? = w'.getLast?

section

variable {s s' r r' u u' : Bytes}

theorem Spread.passed (h : Spread s s') : Passed s s' s s' := ⟨h, [], [], rfl, rfl, rfl⟩

theorem Passed.trans (h : Passed s s' r r') (h' : Passed r r' u u') : Passed s s' u u' := by
  obtain ⟨_, w, w', rfl, rfl, hw⟩ := h
  obtain ⟨hspread, v, v', rfl, rfl, hv⟩ := h'
  refine ⟨hspread, w ++ v, w' ++ v', (List.append_assoc ..).symm, (List.append_assoc ..).symm, ?_⟩
  rw [List.getLast?_append, List.getLast?_append, hw, hv]

theorem Spread.passed_cons {c : UInt8} (h : Spread s s') : Passed (c :: s) (c :: s') s s' :=
  ⟨h, [c], [c], rfl, rfl, rfl⟩

theorem Spread.dropWhile (h : Spread s s') {p : UInt8 → Bool} (hp : p Byte.gt = false) :
    s'.takeWhile p = s.takeWhile p ∧ Passed s s' (s.dropWhile p) (s'.dropWhile p) := by
  induction h with
  | nil => exact ⟨rfl, Spread.nil.passed⟩
  | @cons c s s' hc h ih =>
    by_cases hpc : p c = true
    · rw [List.takeWhile_cons_of_pos hpc, List.takeWhile_cons_of_pos hpc,
        List.dropWhile_cons_of_pos hpc, List.dropWhile_cons_of_pos hpc, ih.1]
      exact ⟨rfl, h.passed_cons.trans ih.2⟩
    · rw [List.takeWhile_cons_of_neg hpc, List.takeWhile_cons_of_neg hpc,
        List.dropWhile_cons_of_neg hpc, List.dropWhile_cons_of_neg hpc]
      exact ⟨rfl, (Spread.cons hc h).passed⟩
  | @fill f s s' hf h =>
    have hneg : ¬ p Byte.gt = true := by rw [hp]; decide
    rw [List.takeWhile_cons_of_neg hneg, List.takeWhile_cons_of_neg hneg,
      List.dropWhile_cons_of_neg hneg, List.dropWhile_cons_of_neg hneg]
    exact ⟨rfl, (Spread.fill hf h).passed⟩

/-- The quote that ends a value is the same in both, if there is one. -/
theorem Spread.dropUntil (h : Spread s s') {q : UInt8} (hq : q = Byte.quote ∨ q = Byte.apostrophe) :
    s.dropWhile (· != q) = [] ∧ s'.dropWhile (· != q) = [] ∨
      ∃ r r', s.dropWhile (· != q) = q :: r ∧ s'.dropWhile (· != q) = q :: r' ∧ Spread r r' := by
  have hne {c : UInt8} (hc : c = Byte.gt ∨ c = Byte.slash ∨ c = Byte.lf) : (c != q) = true := by
    rcases hq with rfl | rfl <;> rcases hc with rfl | rfl | rfl <;> decide
  induction h with
  | nil => exact .inl ⟨rfl, rfl⟩
  | @cons c s s' hc h ih =>
    rw [List.dropWhile_cons, List.dropWhile_cons]
    by_cases hcq : c = q
    · subst hcq
      rw [if_neg (by simp), if_neg (by simp)]
      exact .inr ⟨s, s', rfl, rfl, h⟩
    · rw [if_pos (bne_iff_ne.2 hcq), if_pos (bne_iff_ne.2 hcq)]
      exact ih
  | @fill f s s' hf h ih =>
    have hdrop : (f ++ s').dropWhile (· != q) = s'.dropWhile (· != q) :=
      List.dropWhile_append_of_pos fun c hc => hne (.inr (hf c hc))
    rw [List.dropWhile_cons, List.dropWhile_cons, if_pos (hne (.inl rfl)), if_pos (hne (.inl rfl)),
      hdrop]
    exact ih

theorem passed_of_dropWhile {q : UInt8} (h : s.dropWhile (· != q) = q :: r)
    (h' : s'.dropWhile (· != q) = q :: r') (hr : Spread r r') : Passed s s' r r' := by
  refine ⟨hr, s.takeWhile (· != q) ++ [q], s'.takeWhile (· != q) ++ [q], ?_, ?_, by simp⟩
  · rw [List.append_assoc, List.singleton_append, ← h, List.takeWhile_append_dropWhile]
  · rw [List.append_assoc, List.singleton_append, ← h', List.takeWhile_append_dropWhile]

theorem Spread.readValue? (h : Spread s s') :
    Option.Rel (fun x x' => Passed s s' x.2 x'.2) (readValue? s) (readValue? s') := by
  obtain ⟨_, hblank⟩ := h.dropWhile (p := Byte.isSpace) (by decide)
  have hspread := hblank.1
  unfold Markup.readValue?
  generalize s.dropWhile Byte.isSpace = t at hblank hspread
  generalize s'.dropWhile Byte.isSpace = t' at hblank hspread
  cases hspread with
  | nil => exact .none
  | fill => exact .some hblank
  | @cons c rest rest' hc hrest =>
    dsimp only
    have hbehind : Passed s s' rest rest' := hblank.trans hrest.passed_cons
    split
    · exact .some hbehind
    split
    · obtain ⟨_, hblank'⟩ := hrest.dropWhile (p := Byte.isSpace) (by decide)
      have hvalue := hbehind.trans hblank'
      have hspread := hvalue.1
      generalize rest.dropWhile Byte.isSpace = u at hvalue hspread
      generalize rest'.dropWhile Byte.isSpace = u' at hvalue hspread
      cases hspread with
      | nil => exact .none
      | fill => exact .some hvalue
      | @cons q v v' hq hv =>
        dsimp only
        have hquote : Passed s s' v v' := hvalue.trans hv.passed_cons
        rw [if_neg hq, if_neg hq]
        split
        · rename_i hqq
          rcases hv.dropUntil hqq with ⟨hnil, hnil'⟩ | ⟨r, r', hr, hr', hspread⟩
          · rw [hnil, hnil']
            exact .none
          · rw [hr, hr']
            exact .some (hquote.trans (passed_of_dropWhile hr hr' hspread))
        · obtain ⟨_, hbare⟩ := hv.dropWhile (p := isBareByte) (by decide)
          have hend := hquote.trans hbare
          have hspread := hend.1
          generalize v.dropWhile isBareByte = w at hend hspread
          generalize v'.dropWhile isBareByte = w' at hend hspread
          cases hspread with
          | nil => exact .none
          | cons => exact .some hend
          | fill => exact .some hend
    · exact .some hblank

/-- Readers behind the `>` that ends a tag, with the same byte in front of it. -/
def Ended (s s' r r' : Bytes) : Prop :=
  Trails r r' ∧ ∃ w w', s = w ++ Byte.gt :: r ∧ s' = w' ++ Byte.gt :: r' ∧ w.getLast? = w'.getLast?

theorem Passed.ended (h : Passed s s' r r') (he : Ended r r' u u') : Ended s s' u u' := by
  obtain ⟨_, w, w', rfl, rfl, hw⟩ := h
  obtain ⟨htrails, v, v', rfl, rfl, hv⟩ := he
  refine ⟨htrails, w ++ v, w' ++ v', (List.append_assoc ..).symm, (List.append_assoc ..).symm, ?_⟩
  rw [List.getLast?_append, List.getLast?_append, hw, hv]

theorem Spread.readAttrs? (h : Spread s s') :
    Option.Rel (fun x x' => Ended s s' x.2 x'.2) (readAttrs? s) (readAttrs? s') := by
  induction hn : s.length using Nat.strongRecOn generalizing s s' with
  | ind n ih =>
    obtain ⟨_, hblank⟩ := h.dropWhile (p := Byte.isSpace) (by decide)
    have hlen := (List.dropWhile_suffix (l := s) Byte.isSpace).length_le
    have hspread := hblank.1
    generalize hs : s.dropWhile Byte.isSpace = t at hblank hspread hlen
    generalize hs' : s'.dropWhile Byte.isSpace = t' at hblank hspread
    cases hspread with
    | nil =>
      rw [readAttrs?_of_nil hs, readAttrs?_of_nil hs']
      exact .none
    | fill hf hrest =>
      rw [readAttrs?_of_cons hs, readAttrs?_of_cons hs', if_pos rfl, if_pos rfl]
      exact .some (hblank.ended ⟨⟨_, _, hf, hrest, rfl⟩, [], [], rfl, rfl, rfl⟩)
    | @cons c rest rest' hc hrest =>
      rw [List.length_cons] at hlen
      have hfront := hblank.trans hrest.passed_cons
      rw [readAttrs?_of_cons hs, readAttrs?_of_cons hs', if_neg hc, if_neg hc]
      split
      · exact rel_imp (ih _ (by omega) hrest rfl) fun x x' he => hfront.ended he
      · obtain ⟨_, hkey⟩ := hrest.dropWhile (p := isKeyByte) (by decide)
        have hvalue := hkey.1.readValue?
        cases hv : Markup.readValue? (rest.dropWhile isKeyByte) with
        | none =>
          rw [hv] at hvalue
          generalize Markup.readValue? (rest'.dropWhile isKeyByte) = read at hvalue ⊢
          cases hvalue
          exact .none
        | some read =>
          have hshort := (readValue?_suffix hv).length_le
          have hkeys := (List.dropWhile_suffix (l := rest) isKeyByte).length_le
          rw [hv] at hvalue
          generalize Markup.readValue? (rest'.dropWhile isKeyByte) = read' at hvalue ⊢
          cases hvalue with
          | some hpassed =>
            exact rel_map (ih _ (by omega) hpassed.1 rfl) fun x x' he =>
              (hfront.trans (hkey.trans hpassed)).ended he

theorem Spread.readTag? (h : Spread s s') :
    Option.Rel (fun x x' => x.1 = x'.1 ∧ Ended s s' x.2.2 x'.2.2) (readTag? s) (readTag? s') := by
  obtain ⟨hname, hrest⟩ := h.dropWhile (p := isNameByte) (by decide)
  exact rel_map hrest.1.readAttrs? fun x x' he => ⟨hname.symm, hrest.ended he⟩

end

/-! ## Comments and declarations -/

section

variable {s s' : Bytes}

theorem Spread.untilClose (h : Spread s s') : Trails (untilClose s).2 (untilClose s').2 := by
  obtain ⟨_, hrest, _⟩ := h.dropWhile (p := (· != Byte.gt)) (by decide)
  unfold Markup.untilClose
  dsimp only
  generalize s.dropWhile (· != Byte.gt) = r at hrest
  generalize s'.dropWhile (· != Byte.gt) = r' at hrest
  cases hrest with
  | nil => exact Spread.nil.trails
  | cons _ h => exact h.trails
  | fill hf h => exact ⟨_, _, hf, h, rfl⟩

/-- What follows a word that only ends with a `>`. -/
theorem Spread.drop_ended (h : Spread s s') {p : Bytes} (hp : Byte.gt ∉ p)
    (hs : (p ++ [Byte.gt]).isPrefixOf s = true) :
    Trails (s.drop (p.length + 1)) (s'.drop (p.length + 1)) := by
  have hdrop (r : Bytes) : (p ++ Byte.gt :: r).drop (p.length + 1) = r := by
    rw [← List.singleton_append, ← List.append_assoc]
    exact List.drop_left' (by simp)
  obtain ⟨t, rfl⟩ := List.isPrefixOf_iff_prefix.1 hs
  rw [List.append_assoc, List.singleton_append] at h ⊢
  obtain ⟨r, rfl, hr⟩ := h.drop_word hp
  obtain ⟨u, rfl, hu⟩ := hr.drop_gt
  rw [hdrop, hdrop]
  exact hu

theorem Spread.eq_word (h : Spread s s') {p : Bytes} (hp : Byte.gt ∉ p) : s' = p ↔ s = p := by
  induction h generalizing p with
  | nil => exact Iff.rfl
  | cons _ _ ih =>
    cases p with
    | nil => simp
    | cons a p =>
      rw [List.mem_cons, not_or] at hp
      rw [List.cons.injEq, List.cons.injEq, ih hp.2]
  | fill => exact ⟨fun he => absurd (he ▸ List.mem_cons_self ..) hp,
      fun he => absurd (he ▸ List.mem_cons_self ..) hp⟩

theorem Spread.commentSplit (h : Spread s s') : Trails (commentSplit s).2 (commentSplit s').2 := by
  induction h with
  | nil => exact Spread.nil.trails
  | fill hf h ih =>
    rw [commentSplit_of_ne (by decide), commentSplit_of_ne (by decide),
      commentSplit_append (hf.not_mem (by decide) (by decide))]
    exact ih
  | @cons c s s' hc h ih =>
    have hcons := Spread.cons hc h
    have hwords : (c :: s' = [Byte.dash] ∨ c :: s' = [Byte.dash, Byte.dash] ∨
          c :: s' = [Byte.dash, Byte.dash, Byte.bang]) ↔
        (c :: s = [Byte.dash] ∨ c :: s = [Byte.dash, Byte.dash] ∨
          c :: s = [Byte.dash, Byte.dash, Byte.bang]) := by
      rw [hcons.eq_word (by decide), hcons.eq_word (by decide), hcons.eq_word (by decide)]
    rw [Markup.commentSplit, Markup.commentSplit]
    dsimp only
    simp only [hwords]
    rw [hcons.isPrefixOf_eq (by decide), hcons.isPrefixOf_eq (by decide)]
    split
    · exact Spread.nil.trails
    split
    · rename_i harrow
      exact hcons.drop_ended (p := [Byte.dash, Byte.dash]) (by decide) harrow
    split
    · rename_i harrow
      exact hcons.drop_ended (p := [Byte.dash, Byte.dash, Byte.bang]) (by decide) harrow
    · exact ih

theorem Spread.readComment (h : Spread s s') : Trails (readComment s).2 (readComment s').2 := by
  rw [Markup.readComment, Markup.readComment, h.isPrefixOf_eq (by decide),
    h.isPrefixOf_eq (by decide)]
  split
  · rename_i hgt
    exact h.drop_ended (p := []) (by decide) hgt
  split
  · rename_i harrow
    exact h.drop_ended (p := [Byte.dash]) (by decide) harrow
  · exact h.commentSplit

theorem gt_not_mem_doctypeWord : Byte.gt ∉ doctypeWord := by decide

/-- A `>` right behind `<!` ends the comment there, if anything follows it. -/
theorem declaration_gt (c : UInt8) (s : Bytes) : (declaration (Byte.gt :: c :: s)).2 = c :: s := by
  have hfirst : doctypeWord = 0x64 :: doctypeWord.tail := by decide
  have hlower : Bytes.lower (Byte.gt :: c :: s) = Byte.gt :: Bytes.lower (c :: s) := rfl
  have hword : doctypeWord.isPrefixOf (Bytes.lower (Byte.gt :: c :: s)) = false := by
    rw [hfirst, hlower, List.isPrefixOf, show ((0x64 : UInt8) == Byte.gt) = false by decide,
      Bool.false_and]
  have hpart : (Bytes.lower (Byte.gt :: c :: s)).isPrefixOf doctypeWord = false := by
    rw [hfirst, hlower, List.isPrefixOf, show (Byte.gt == (0x64 : UInt8)) = false by decide,
      Bool.false_and]
  have hdash : [Byte.dash, Byte.dash].isPrefixOf (Byte.gt :: c :: s) = false := by
    rw [List.isPrefixOf, show (Byte.dash == Byte.gt) = false by decide, Bool.false_and]
  simp [Markup.declaration, hword, hpart, hdash, Markup.untilClose]

theorem Spread.drop_doctypeWord (h : Spread s s') (hword : doctypeWord.isPrefixOf s.lower = true) :
    Spread (s.drop doctypeWord.length) (s'.drop doctypeWord.length) := by
  have htake : Bytes.lower (s.take doctypeWord.length) = doctypeWord := by
    obtain ⟨t, ht⟩ := List.isPrefixOf_iff_prefix.1 hword
    have htaken := congrArg (List.take doctypeWord.length) ht
    rw [List.take_left, Bytes.lower, ← List.map_take] at htaken
    exact htaken.symm
  have hgt : Byte.gt ∉ s.take doctypeWord.length := by
    intro hmem
    have hlower : Byte.lower Byte.gt ∈ Bytes.lower (s.take doctypeWord.length) :=
      List.mem_map_of_mem hmem
    rw [htake] at hlower
    exact gt_not_mem_doctypeWord hlower
  have hlength : (s.take doctypeWord.length).length = doctypeWord.length := by
    have hlen := congrArg List.length htake
    rwa [length_lower] at hlen
  rw [← List.take_append_drop doctypeWord.length s] at h
  obtain ⟨r, rfl, hr⟩ := h.drop_word hgt
  rwa [List.drop_left' hlength]

theorem Spread.declaration (h : Spread s s') : Trails (declaration s).2 (declaration s').2 := by
  by_cases hlen : s.length ≤ 1
  · have hrest : (Markup.declaration s).2 = [] := by rw [Markup.declaration, if_pos hlen]
    rw [hrest]
    cases h with
    | nil => exact Spread.nil.trails
    | cons hc h =>
      cases h with
      | nil => exact Spread.nil.trails
      | cons | fill => simp at hlen
    | @fill f s s' hf h =>
      cases h with
      | cons | fill => simp at hlen
      | nil =>
        rw [List.append_nil]
        cases f with
        | nil => exact Spread.nil.trails
        | cons c f =>
          rw [declaration_gt]
          exact ⟨c :: f, [], hf, .nil, (List.append_nil _).symm⟩
  · have hlen' : ¬ s'.length ≤ 1 := by
      cases h with
      | nil => simp at hlen
      | cons _ h | fill _ h =>
        cases h with
        | nil => simp at hlen
        | cons | fill => simp
    rw [Markup.declaration, Markup.declaration, if_neg hlen, if_neg hlen',
      h.isPrefixOf_eq (by decide), h.lower.isPrefixOf_eq (by decide),
      h.lower.isPrefixOf_word gt_not_mem_doctypeWord]
    split
    · rename_i hdash
      obtain ⟨t, rfl⟩ := List.isPrefixOf_iff_prefix.1 hdash
      obtain ⟨r, rfl, hr⟩ := h.drop_word (by decide)
      exact hr.readComment
    split
    · rename_i hword
      exact ((h.drop_doctypeWord hword).dropWhile (by decide)).2.1.untilClose
    split
    · exact Spread.nil.trails
    · exact h.untilClose

end

end Graft.Markup
