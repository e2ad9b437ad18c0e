import Graft.Proofs.Markup.Reference
import Graft.Proofs.Markup.Scanned

/-!
# Graft.Proofs.Markup.Content

The content of raw elements. Its data is the source with line ends and zero bytes replaced, and the
element ends at the same place when that data is written in its stead.

* `Cleaned`: line ends and zero bytes replaced, byte by byte.
* `contentRest_eq`: the end of the content is not moved.
* `Contained`: data that its element's end tag ends.
-/

namespace Graft.Markup

open Bytes

/-- Line ends and zero bytes replaced. -/
def cleaned (s : Bytes) : Bytes := replaceZeros (normalizeLines s)

/-- A source and its cleaned form. -/
inductive Cleaned : Bytes → Bytes → Prop where
  | nil : Cleaned [] []
  | same {c : UInt8} {s s' : Bytes} (hc : c ≠ Byte.cr) (hz : c ≠ Byte.nul) :
      Cleaned s s' → Cleaned (c :: s) (c :: s')
  | zero {s s' : Bytes} : Cleaned s s' → Cleaned (Byte.nul :: s) (0xEF :: 0xBF :: 0xBD :: s')
  | cr {s s' : Bytes} : Cleaned s s' → Cleaned (Byte.cr :: s) (Byte.lf :: s')
  | crlf {s s' : Bytes} : Cleaned s s' → Cleaned (Byte.cr :: Byte.lf :: s) (Byte.lf :: s')

theorem replaceZeros_cons (c : UInt8) (s : Bytes) :
    replaceZeros (c :: s) =
      (if c = Byte.nul then [0xEF, 0xBF, 0xBD] else [c]) ++ replaceZeros s := by
  rw [replaceZeros, List.flatMap_cons]
  rfl

theorem cleaned_spec (s : Bytes) : Cleaned s (cleaned s) := by
  induction hn : s.length using Nat.strongRecOn generalizing s with
  | ind n ih =>
    have rest (s' : Bytes) (hl : s'.length < n) : Cleaned s' (cleaned s') := ih _ hl s' rfl
    cases s with
    | nil => exact .nil
    | cons c s =>
      rw [List.length_cons] at hn
      have hs := rest s (by omega)
      unfold cleaned at hs ⊢
      rw [normalizeLines_cons]
      split
      · rename_i hc
        subst hc
        split
        · cases s with
          | nil => rename_i h; cases h
          | cons d s =>
            rename_i h
            cases h
            have hs' := rest s (by simp only [List.length_cons] at hn; omega)
            unfold cleaned at hs'
            rw [normalizeLines_cons, if_neg (by decide), replaceZeros_cons, if_neg (by decide)]
            exact .crlf hs'
        · rw [replaceZeros_cons, if_neg (by decide)]
          exact .cr hs
      · rename_i hc
        rw [replaceZeros_cons]
        split
        · rename_i hz
          rw [hz]
          exact .zero hs
        · rename_i hz
          exact .same hc hz hs

namespace Cleaned

variable {s s' : Bytes}

theorem head?_any {p : UInt8 → Bool} (h : Cleaned s s') (hcr : p Byte.cr = p Byte.lf)
    (hz : p Byte.nul = p 0xEF) : s'.head?.any p = s.head?.any p := by
  cases h with
  | nil => rfl
  | same => rfl
  | zero => simp [hz]
  | cr => simp [hcr]
  | crlf => simp [hcr]

theorem namesTag_eq {name : Bytes} (hn : ∀ a ∈ name, Byte.isLetter a = true)
    (h : Cleaned s s') : namesTag name s' = namesTag name s := by
  induction name generalizing s s' with
  | nil => rw [namesTag_nil, namesTag_nil, h.head?_any (by decide) (by decide)]
  | cons a name ih =>
    have ha := hn a (List.mem_cons_self ..)
    have hne (c : UInt8) (hc : Byte.isLetter (Byte.lower c) = false) :
        (a == Byte.lower c) = false :=
      beq_eq_false_iff_ne.2 fun h => by rw [h, hc] at ha; cases ha
    cases h with
    | nil => rfl
    | same _ _ h =>
      rw [namesTag_cons, namesTag_cons, ih (fun b hb => hn b (List.mem_cons_of_mem _ hb)) h]
    | zero => simp only [namesTag_cons, hne _ (by decide : Byte.isLetter (Byte.lower 0xEF) = false),
        hne _ (by decide : Byte.isLetter (Byte.lower Byte.nul) = false), Bool.false_and]
    | cr | crlf =>
      simp only [namesTag_cons, hne _ (by decide : Byte.isLetter (Byte.lower Byte.lf) = false),
        hne _ (by decide : Byte.isLetter (Byte.lower Byte.cr) = false), Bool.false_and]

theorem startsRawEnd_eq {name : Bytes} (hn : ∀ a ∈ name, Byte.isLetter a = true) {c : UInt8}
    (h : Cleaned s s') : startsRawEnd name (c :: s') = startsRawEnd name (c :: s) := by
  cases h with
  | nil => rfl
  | same _ _ h =>
    simp only [startsRawEnd, List.isPrefixOf, List.drop_succ_cons, List.drop_zero, h.namesTag_eq hn]
  | zero => simp [startsRawEnd, List.isPrefixOf, Byte.slash, Byte.nul]
  | cr | crlf => simp [startsRawEnd, List.isPrefixOf, Byte.slash, Byte.cr, Byte.lf]

theorem rawRest_eq {name : Bytes} (hn : ∀ a ∈ name, Byte.isLetter a = true) (h : Cleaned s s') :
    Cleaned (rawRest name s) (rawRest name s') := by
  induction h with
  | nil => exact .nil
  | same hc hz h ih =>
    rw [rawRest, rawRest, h.startsRawEnd_eq hn]
    split
    · exact .same hc hz h
    · exact ih
  | zero h ih =>
    rw [← List.singleton_append, rawRest_prepend (by decide)]
    exact (rawRest_prepend (p := [0xEF, 0xBF, 0xBD]) (by decide) name _).symm ▸ ih
  | cr h ih =>
    rw [← List.singleton_append, rawRest_prepend (by decide)]
    exact (rawRest_prepend (p := [Byte.lf]) (by decide) name _).symm ▸ ih
  | @crlf s s' h ih =>
    rw [show Byte.cr :: Byte.lf :: s = [Byte.cr, Byte.lf] ++ s from rfl,
      rawRest_prepend (by decide)]
    exact (rawRest_prepend (p := [Byte.lf]) (by decide) name _).symm ▸ ih

end Cleaned

/-! ## Scripts -/

/-- The state behind a line end. -/
def ScriptState.settle : ScriptState → ScriptState
  | plain => plain
  | escaped _ => escaped 0
  | doubleEscaped _ => doubleEscaped 0

/-- Bytes that neither watch for. -/
def isIdle (c : UInt8) : Bool := c != Byte.lt && c != Byte.dash && c != Byte.gt

theorem scriptStep_idle {c : UInt8} (hc : isIdle c = true) (state : ScriptState) (rest : Bytes) :
    scriptStep state c rest = some (state.settle, 0) := by
  simp only [isIdle, Bool.and_eq_true, bne_iff_ne, ne_eq] at hc
  obtain ⟨⟨hlt, hdash⟩, hgt⟩ := hc
  have hends : startsRawEnd scriptName (c :: rest) = false := startsRawEnd_of_ne hlt _ _
  cases state <;>
    simp [scriptStep, hends, List.isPrefixOf, hlt, hdash, hgt, Ne.symm hlt, ScriptState.settle]

theorem scriptRest_idle {c : UInt8} (hc : isIdle c = true) (state : ScriptState) (rest : Bytes) :
    scriptRest state 0 (c :: rest) = scriptRest state.settle 0 rest := by
  rw [scriptRest, scriptStep_idle hc]

theorem ScriptState.settle_settle (state : ScriptState) : state.settle.settle = state.settle := by
  cases state <;> rfl

/-- The bytes still to skip hold no line end, but for the last one in a settled state. -/
def Aligned (state : ScriptState) : Nat → Bytes → Prop
  | 0, _ => True
  | _ + 1, [] => True
  | k + 1, c :: s =>
    c ≠ Byte.nul ∧ (c = Byte.cr → k = 0 ∧ state.settle = state) ∧ Aligned state k s

theorem aligned_of_namesTag {name s : Bytes} {state : ScriptState}
    (hn : ∀ a ∈ name, Byte.isLetter a = true) (hstate : state.settle = state)
    (h : namesTag name s = true) : Aligned state (name.length + 1) s := by
  induction name generalizing s with
  | nil =>
    rw [namesTag_nil] at h
    cases s with
    | nil => trivial
    | cons c s =>
      refine ⟨?_, fun _ => ⟨rfl, hstate⟩, trivial⟩
      rintro rfl
      cases h
  | cons a name ih =>
    cases s with
    | nil => trivial
    | cons c s =>
      rw [namesTag_cons, Bool.and_eq_true, beq_iff_eq] at h
      have ha := hn a (List.mem_cons_self ..)
      rw [h.1] at ha
      refine ⟨?_, ?_, ih (fun b hb => hn b (List.mem_cons_of_mem _ hb)) h.2⟩
      · rintro rfl
        cases ha
      · rintro rfl
        cases ha

theorem scriptName_letters : ∀ a ∈ scriptName, Byte.isLetter a = true :=
  forall_mem_of_all (by decide)

theorem aligned_of_scriptStep {state next : ScriptState} {c : UInt8} {rest : Bytes} {skip : Nat}
    (h : scriptStep state c rest = some (next, skip)) : Aligned next skip rest := by
  cases state with
  | plain =>
    simp only [scriptStep] at h
    split at h
    · cases h
    split at h
    · rename_i hp
      cases h
      obtain ⟨s, hs⟩ := List.isPrefixOf_iff_prefix.1 hp
      obtain ⟨_, rfl⟩ := List.cons.inj hs
      simp [Aligned, Byte.bang, Byte.dash, Byte.nul, Byte.cr]
    · cases h
      trivial
  | escaped n =>
    simp only [scriptStep] at h
    split at h
    · cases h
    split at h
    · split at h
      · rename_i hs
        cases h
        obtain ⟨s, rfl⟩ := List.head?_eq_some_iff.1 hs
        simp [Aligned, Byte.slash, Byte.nul, Byte.cr]
      split at h
      · rename_i hn
        cases h
        exact aligned_of_namesTag scriptName_letters rfl hn
      split at h <;> (cases h; trivial)
    split at h
    · cases h; trivial
    split at h <;> (cases h; trivial)
  | doubleEscaped n =>
    simp only [scriptStep] at h
    split at h
    · rename_i hends
      cases h
      simp only [startsRawEnd, List.isPrefixOf, Bool.and_eq_true] at hends
      cases rest with
      | nil => simp [List.isPrefixOf] at hends
      | cons a s =>
        simp only [List.isPrefixOf, Bool.and_eq_true, beq_iff_eq, List.drop_succ_cons,
          List.drop_zero] at hends
        obtain ⟨⟨_, rfl, _⟩, hn⟩ := hends
        refine ⟨by decide, fun h => absurd h (by decide), ?_⟩
        exact aligned_of_namesTag scriptName_letters rfl hn
    split at h
    · cases h; trivial
    split at h <;> (cases h; trivial)

namespace Cleaned

variable {s s' : Bytes}

theorem isPrefixOf_eq {p : Bytes} (hp : ∀ a ∈ p, a = Byte.bang ∨ a = Byte.dash)
    (h : Cleaned s s') : p.isPrefixOf s' = p.isPrefixOf s := by
  induction p generalizing s s' with
  | nil => rw [List.isPrefixOf_nil_left, List.isPrefixOf_nil_left]
  | cons a p ih =>
    have ha := hp a (List.mem_cons_self ..)
    cases h with
    | nil => rfl
    | same _ _ h => simp only [List.isPrefixOf, ih (fun b hb => hp b (List.mem_cons_of_mem _ hb)) h]
    | zero | cr | crlf => rcases ha with rfl | rfl <;> rfl

theorem scriptStep_eq {state : ScriptState} {c : UInt8} (h : Cleaned s s') :
    scriptStep state c s' = scriptStep state c s := by
  have hends : startsRawEnd scriptName (c :: s') = startsRawEnd scriptName (c :: s) :=
    h.startsRawEnd_eq scriptName_letters
  have hdash : [Byte.lt, Byte.bang, Byte.dash, Byte.dash].isPrefixOf (c :: s') =
      [Byte.lt, Byte.bang, Byte.dash, Byte.dash].isPrefixOf (c :: s) := by
    simp only [List.isPrefixOf]
    rw [h.isPrefixOf_eq (by simp)]
  have hhead : s'.head? = some Byte.slash ↔ s.head? = some Byte.slash := by
    cases h <;> simp [Byte.slash, Byte.nul, Byte.cr, Byte.lf]
  have hletter : s'.head?.any Byte.isLetter = s.head?.any Byte.isLetter :=
    h.head?_any (by decide) (by decide)
  simp only [scriptStep, hends, hdash, hhead, hletter, h.namesTag_eq scriptName_letters]

theorem scriptRest_eq (h : Cleaned s s') :
    ∀ {state : ScriptState} {skip : Nat}, Aligned state skip s →
      Cleaned (scriptRest state skip s) (scriptRest state skip s') := by
  induction h with
  | nil => intro state skip _; cases skip <;> exact .nil
  | @same c s s' hc hz h ih =>
    intro state skip ha
    cases skip with
    | succ skip => exact ih ha.2.2
    | zero =>
      rw [scriptRest, scriptRest, h.scriptStep_eq]
      split
      · exact .same hc hz h
      · rename_i hstep
        exact ih (aligned_of_scriptStep hstep)
  | zero h ih =>
    intro state skip ha
    cases skip with
    | succ skip => exact absurd rfl ha.1
    | zero =>
      rw [scriptRest_idle (by decide), scriptRest_idle (by decide), scriptRest_idle (by decide),
        scriptRest_idle (by decide), ScriptState.settle_settle, ScriptState.settle_settle]
      exact ih trivial
  | cr h ih =>
    intro state skip ha
    cases skip with
    | succ skip => exact ih ha.2.2
    | zero =>
      rw [scriptRest_idle (by decide), scriptRest_idle (by decide)]
      exact ih trivial
  | crlf h ih =>
    intro state skip ha
    cases skip with
    | succ skip =>
      obtain ⟨rfl, hstate⟩ := ha.2.1 rfl
      rw [scriptRest, scriptRest, scriptRest_idle (by decide), hstate]
      exact ih trivial
    | zero =>
      rw [scriptRest_idle (by decide), scriptRest_idle (by decide), scriptRest_idle (by decide),
        ScriptState.settle_settle]
      exact ih trivial

theorem contentRest_eq (h : Cleaned s s') (element : RawElement) :
    Cleaned (contentRest element s) (contentRest element s') := by
  have hletters : ∀ a ∈ element.name, Byte.isLetter a = true := by
    cases element <;> exact forall_mem_of_all (by decide)
  cases element <;>
    first
      | exact .nil
      | exact h.scriptRest_eq trivial
      | exact h.rawRest_eq hletters

end Cleaned

/-! ## Data that stays in its element -/

theorem Cleaned.refl {x : Bytes} (h : ∀ c ∈ x, c ≠ Byte.cr ∧ c ≠ Byte.nul) : Cleaned x x := by
  induction x with
  | nil => exact .nil
  | cons c x ih =>
    obtain ⟨hc, hz⟩ := h c (List.mem_cons_self ..)
    exact .same hc hz (ih fun b hb => h b (List.mem_cons_of_mem _ hb))

theorem Cleaned.eq {x y : Bytes} (h : Cleaned x y) (hx : ∀ c ∈ x, c ≠ Byte.cr ∧ c ≠ Byte.nul) :
    y = x := by
  induction h with
  | nil => rfl
  | same _ _ _ ih => rw [ih fun b hb => hx b (List.mem_cons_of_mem _ hb)]
  | zero => exact absurd rfl (hx _ (List.mem_cons_self ..)).2
  | cr | crlf => exact absurd rfl (hx _ (List.mem_cons_self ..)).1

theorem Cleaned.append {s s' x y : Bytes} (h : Cleaned s s') (hx : Cleaned x y) :
    Cleaned (s ++ x) (s' ++ y) := by
  induction h with
  | nil => exact hx
  | same hc hz _ ih => exact .same hc hz ih
  | zero _ ih => exact .zero ih
  | cr _ ih => exact .cr ih
  | crlf _ ih => exact .crlf ih

/-- Content that ends where the end tag of its element stands. -/
def Contained (element : RawElement) (data : Bytes) : Prop :=
  ∀ x, startsRawEnd element.name x = true → contentRest element (data ++ x) = x

theorem contained_of_contentRest {element : RawElement} {data u : Bytes}
    (h : contentRest element (data ++ u) = u) (hu : u ≠ []) : Contained element data :=
  fun _ hx => contentRest_swap h hu (.inr hx)

theorem contained_of_lt_not_mem {element : RawElement} (he : element ≠ .plaintext) {data : Bytes}
    (h : Byte.lt ∉ data) : Contained element data := by
  intro x hx
  rw [contentRest_prepend h, contentRest_of_startsRawEnd he hx]

theorem Contained.cleaned {element : RawElement} {data : Bytes} (h : Contained element data) :
    Contained element (cleaned data) := by
  obtain ⟨x, hx, hplain⟩ : ∃ x, startsRawEnd element.name x = true ∧
      ∀ c ∈ x, c ≠ Byte.cr ∧ c ≠ Byte.nul :=
    ⟨Byte.lt :: Byte.slash :: (element.name ++ [Byte.gt]), by cases element <;> decide,
      by cases element <;> exact forall_mem_of_all (by decide)⟩
  have hne : x ≠ [] := by
    rintro rfl
    cases hx
  have hclean := ((cleaned_spec data).append (Cleaned.refl hplain)).contentRest_eq element
  rw [h x hx] at hclean
  exact contained_of_contentRest (hclean.eq hplain) hne

end Graft.Markup
