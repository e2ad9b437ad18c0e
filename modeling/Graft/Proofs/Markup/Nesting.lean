import Graft.Proofs.Markup.Tag
import Mathlib.Algebra.Ring.Int.Defs

/-!
# Graft.Proofs.Markup.Nesting

Tags of one name, counted. Names are compared up to case, and a self-closing tag opens nothing.

* `nesting`, `level`: start tags minus end tags.
* `NestedFrom`, `Nested`: tokens that close what they open and nothing else.
* `NestedFrom.append`, `Nested.wrap`: tokens side by side, and inside a pair of tags.
* `nesting_congr`, `nested_congr`: names that are the same up to case.
-/

namespace Graft.Markup

/-- Whether a token is an end tag of a name, in any case. -/
def isStop (type : Bytes) (t : Token) : Bool :=
  match t.kind with
  | .endTag lowered => Fold.alike (spelledName t.raw lowered) type
  | _ => false

/-- How a token changes the number of open tags of a name. A self-closing tag opens nothing. -/
def nesting (type : Bytes) (t : Token) : Int :=
  match t.kind with
  | .startTag lowered _ => if Fold.alike (spelledName t.raw lowered) type then 1 else 0
  | .endTag lowered => if Fold.alike (spelledName t.raw lowered) type then -1 else 0
  | _ => 0

/-- Start tags minus end tags of a name. -/
def level (type : Bytes) (ts : List Token) : Int := (ts.map (nesting type)).sum

/-- With `depth` tags of a name open, the tokens close them all and never more. -/
structure NestedFrom (depth : Int) (type : Bytes) (ts : List Token) : Prop where
  nonneg : ∀ front, front <+: ts → 0 ≤ depth + level type front
  settled : depth + level type ts = 0

/-- Every start tag of the name has its end tag, and every end tag its start tag. -/
abbrev Nested (type : Bytes) (ts : List Token) : Prop := NestedFrom 0 type ts

theorem level_nil (type : Bytes) : level type [] = 0 := rfl

theorem level_cons (type : Bytes) (t : Token) (ts : List Token) :
    level type (t :: ts) = nesting type t + level type ts := by
  simp [level]

theorem level_append (type : Bytes) (ts us : List Token) :
    level type (ts ++ us) = level type ts + level type us := by
  simp [level]

theorem nestedFrom_nil {depth : Int} {type : Bytes} : NestedFrom depth type [] ↔ depth = 0 := by
  constructor
  · intro h
    have := h.settled
    rw [level_nil] at this
    omega
  · rintro rfl
    refine ⟨fun front hf => ?_, by rw [level_nil]; rfl⟩
    rw [List.prefix_nil.1 hf, level_nil]
    decide

theorem nestedFrom_cons {depth : Int} {type : Bytes} {t : Token} {ts : List Token} :
    NestedFrom depth type (t :: ts) ↔
      0 ≤ depth ∧ NestedFrom (depth + nesting type t) type ts := by
  constructor
  · intro h
    refine ⟨?_, ⟨fun front hf => ?_, ?_⟩⟩
    · have := h.nonneg [] (List.nil_prefix)
      rw [level_nil] at this
      omega
    · have := h.nonneg (t :: front) (List.cons_prefix_cons.2 ⟨rfl, hf⟩)
      rw [level_cons] at this
      omega
    · have := h.settled
      rw [level_cons] at this
      omega
  · rintro ⟨hd, h⟩
    refine ⟨fun front hf => ?_, ?_⟩
    · rcases List.prefix_cons_iff.1 hf with rfl | ⟨more, rfl, hmore⟩
      · rw [level_nil]; omega
      · have := h.nonneg more hmore
        rw [level_cons]
        omega
    · have := h.settled
      rw [level_cons]
      omega

theorem exists_endTag {type : Bytes} {t : Token} (h : isStop type t = true) :
    ∃ lowered, t.kind = .endTag lowered := by
  unfold isStop at h
  split at h
  · exact ⟨_, ‹_›⟩
  · cases h

theorem nesting_of_isStop {type : Bytes} {t : Token} (h : isStop type t = true) :
    nesting type t = -1 := by
  unfold isStop at h
  unfold nesting
  split at h
  · rename_i hk
    rw [hk]
    dsimp only
    rw [if_pos h]
  · cases h

theorem nesting_nonneg {type : Bytes} {t : Token} (h : isStop type t = false) :
    0 ≤ nesting type t := by
  unfold isStop at h
  unfold nesting
  split at h
  · rename_i hk
    rw [hk]
    dsimp only
    rw [h]
    decide
  · rename_i hk
    split
    · split <;> decide
    · rename_i hk'
      exact absurd hk' (hk _)
    · decide

/-! ## Putting tokens together -/

theorem NestedFrom.append {depth : Int} {type : Bytes} {ts us : List Token}
    (h : NestedFrom depth type ts) (h' : Nested type us) : NestedFrom depth type (ts ++ us) := by
  induction ts generalizing depth with
  | nil =>
    rw [nestedFrom_nil.1 h]
    exact h'
  | cons t ts ih =>
    obtain ⟨hd, hrest⟩ := nestedFrom_cons.1 h
    exact nestedFrom_cons.2 ⟨hd, ih hrest⟩

theorem NestedFrom.close {depth k : Int} {type : Bytes} {ts : List Token} {stop : Token}
    (h : NestedFrom depth type ts) (hk : 0 ≤ k) (hs : nesting type stop = -k) :
    NestedFrom (depth + k) type (ts ++ [stop]) := by
  induction ts generalizing depth with
  | nil =>
    have hd := nestedFrom_nil.1 h
    rw [List.nil_append, nestedFrom_cons, nestedFrom_nil]
    omega
  | cons t ts ih =>
    obtain ⟨hd, hrest⟩ := nestedFrom_cons.1 h
    have hmore := ih hrest
    rw [show depth + nesting type t + k = depth + k + nesting type t by omega] at hmore
    exact nestedFrom_cons.2 ⟨by omega, hmore⟩

theorem nested_singleton {type : Bytes} {t : Token} (h : nesting type t = 0) : Nested type [t] :=
  nestedFrom_cons.2 ⟨Int.le_refl 0, nestedFrom_nil.2 (by rw [h]; rfl)⟩

theorem Nested.wrap {type : Bytes} {ts : List Token} {start stop : Token} (h : Nested type ts)
    (hstart : 0 ≤ nesting type start) (hstop : nesting type stop = -nesting type start) :
    Nested type (start :: (ts ++ [stop])) :=
  nestedFrom_cons.2 ⟨Int.le_refl 0, h.close hstart hstop⟩

theorem nesting_openTag {t : Token} {name : Bytes} {attrs : List (Bytes × Bytes)}
    (h : OpenTag t name attrs) (type : Bytes) :
    nesting type t =
      if endsWithSlash t.raw = false ∧ Fold.alike name type = true then 1 else 0 := by
  have hk := h.kind
  unfold nesting
  split at hk
  · rename_i hslash
    rw [hk]
    simp [hslash]
  · rename_i hslash
    rw [hk]
    simp [hslash, h.spelledName]

theorem nesting_closeTag {t : Token} {name : Bytes} (h : CloseTag t name) (type : Bytes) :
    nesting type t = if Fold.alike name type = true then -1 else 0 := by
  unfold nesting
  rw [h.kind]
  dsimp only
  rw [h.spelledName]

theorem nesting_of_start {t : Token} {lowered : Bytes} {attrs : List Attr}
    (hk : t.kind = .startTag lowered attrs) : nesting (tagName t) t = 1 := by
  simp [nesting, tagName, hk, Fold.alike_refl]

/-! ## Names alike -/

section

variable {type type' : Bytes}

theorem alike_of_isStop {stop : Token} (h : isStop type stop = true)
    (h' : isStop type' stop = true) : Fold.alike type type' = true := by
  unfold isStop at h h'
  split at h
  · rename_i hk
    rw [hk] at h'
    exact Fold.alike_trans (Fold.alike_symm h) h'
  · cases h

theorem nesting_congr (h : Fold.alike type type' = true) (t : Token) :
    nesting type t = nesting type' t := by
  have hsame (name : Bytes) : Fold.alike name type = Fold.alike name type' :=
    Bool.eq_iff_iff.2
      ⟨fun hn => Fold.alike_trans hn h, fun hn => Fold.alike_trans hn (Fold.alike_symm h)⟩
  simp only [nesting, hsame]

theorem level_congr (h : Fold.alike type type' = true) (ts : List Token) :
    level type ts = level type' ts :=
  congrArg List.sum (List.map_congr_left fun t _ => nesting_congr h t)

theorem nested_congr (h : Fold.alike type type' = true) {ts : List Token} (hn : Nested type ts) :
    Nested type' ts where
  nonneg front hf := level_congr h front ▸ hn.nonneg front hf
  settled := level_congr h ts ▸ hn.settled

end

end Graft.Markup
