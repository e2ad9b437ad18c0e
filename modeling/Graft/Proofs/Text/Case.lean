import Graft.Text.Fold

/-!
# Graft.Proofs.Text.Case

Comparison up to folding does not see the case of `A`–`Z`, so a name and its lower-case form are
always alike.

* `forall_mem_of_all`: testing all bytes of a text.
* `Byte.isUpper_iff`, `Byte.toNat_lower`: lower case as arithmetic.
* `Utf8.head?_lower`: lower case keeps every sequence of more than one byte.
* `Fold.alike_lower`: a text is alike to its lower-case form.
* `Fold.alike_refl`, `Fold.alike_symm`, `Fold.alike_trans`: being alike is an equivalence.
-/

namespace Graft

theorem forall_mem_of_all {p : UInt8 → Prop} [DecidablePred p] {s : Bytes}
    (h : s.all (fun b => decide (p b)) = true) : ∀ b ∈ s, p b :=
  fun b hb => of_decide_eq_true (List.all_eq_true.1 h b hb)

namespace Byte

theorem isUpper_iff {b : UInt8} : isUpper b = true ↔ 0x41 ≤ b.toNat ∧ b.toNat ≤ 0x5A := by
  simp [isUpper, UInt8.le_iff_toNat_le]

theorem lower_of_not_isUpper {b : UInt8} (h : ¬ isUpper b = true) : lower b = b := if_neg h

theorem toNat_lower {b : UInt8} (h : isUpper b = true) : (lower b).toNat = b.toNat + 0x20 := by
  have hb := isUpper_iff.1 h
  rw [lower, if_pos h, UInt8.toNat_add]
  exact Nat.mod_eq_of_lt (show b.toNat + 0x20 < 256 by omega)

theorem lower_of_not_lt {b : UInt8} (h : ¬ b < 0x80) : lower b = b := by
  refine lower_of_not_isUpper fun hu => h ?_
  have hb := isUpper_iff.1 hu
  exact UInt8.lt_iff_toNat_lt.2 (show b.toNat < 0x80 by omega)

theorem lower_lt {b : UInt8} (h : b < 0x80) : lower b < 0x80 := by
  by_cases hu : isUpper b = true
  · have hb := isUpper_iff.1 hu
    exact UInt8.lt_iff_toNat_lt.2 (show (lower b).toNat < 0x80 by rw [toNat_lower hu]; omega)
  · rwa [lower_of_not_isUpper hu]

theorem exists_of_isUpper {b : UInt8} (h : isUpper b = true) :
    ∃ n < 26, b.toNat = 0x41 + n ∧ (lower b).toNat = 0x61 + n := by
  have hb := isUpper_iff.1 h
  rw [toNat_lower h]
  exact ⟨b.toNat - 0x41, by omega, by omega, by omega⟩

theorem isLetter_of_lower {b : UInt8} (h : isLetter (lower b) = true) : isLetter b = true := by
  by_cases hu : isUpper b = true
  · rw [isLetter, hu, Bool.or_true]
  · rwa [lower_of_not_isUpper hu] at h

end Byte

namespace Bytes

theorem lower_nil : lower [] = [] := rfl

theorem lower_cons (c : UInt8) (s : Bytes) : lower (c :: s) = Byte.lower c :: lower s := rfl

theorem length_lower (s : Bytes) : s.lower.length = s.length := List.length_map ..

theorem lower_append (s t : Bytes) : (s ++ t).lower = s.lower ++ t.lower := List.map_append

end Bytes

namespace Utf8

theorem secondRange_fst (b : UInt8) : ¬ (secondRange b).1 < 0x80 := by
  unfold secondRange
  repeat' split
  all_goals decide

theorem not_isContinuation {b : UInt8} (h : b < 0x80) : isContinuation b = false := by
  rw [isContinuation, decide_eq_false (UInt8.not_le.2 h), Bool.false_and]

theorem lt_secondRange {b c : UInt8} (h : b < 0x80) : b < (secondRange c).1 :=
  UInt8.lt_of_lt_of_le h (UInt8.not_lt.1 (secondRange_fst c))

/-- Whether a byte is no character of its own. -/
def isHigh (b : UInt8) : Bool := !(b < 0x80)

/-- A sequence does not reach past the bytes that are no characters of their own. -/
theorem head?_takeWhile {a : UInt8} (ha : ¬ a < 0x80) (s : Bytes) :
    head? (a :: s.takeWhile isHigh) = head? (a :: s) := by
  have keep {b : UInt8} (hb : ¬ b < 0x80) (s : Bytes) :
      (b :: s).takeWhile isHigh = b :: s.takeWhile isHigh :=
    List.takeWhile_cons_of_pos (by simp [isHigh, UInt8.not_lt.1 hb])
  have drop {b : UInt8} (hb : b < 0x80) (s : Bytes) : (b :: s).takeWhile isHigh = [] :=
    List.takeWhile_cons_of_neg (by simp [isHigh, hb])
  simp only [head?, if_neg ha]
  split
  · rfl
  cases s with
  | nil => rfl
  | cons b s =>
    by_cases hb : b < 0x80
    · simp only [drop hb, lt_secondRange hb, decide_true, Bool.true_or, if_true]
    · rw [keep hb]
      dsimp only
      split
      · rfl
      split
      · rfl
      cases s with
      | nil => rfl
      | cons c s =>
        by_cases hc : c < 0x80
        · simp only [drop hc, not_isContinuation hc, Bool.not_false, if_true]
        · rw [keep hc]
          dsimp only
          split
          · rfl
          split
          · rfl
          split
          · cases s with
            | nil => rfl
            | cons d s =>
              by_cases hd : d < 0x80
              · simp only [drop hd, not_isContinuation hd, Bool.not_false, if_true]
              · rw [keep hd]
          · rfl

theorem takeWhile_lower (s : Bytes) : s.lower.takeWhile isHigh = s.takeWhile isHigh := by
  induction s with
  | nil => rfl
  | cons c s ih =>
    rw [Bytes.lower_cons]
    by_cases hc : c < 0x80
    · rw [List.takeWhile_cons_of_neg (by simp [isHigh, Byte.lower_lt hc]),
        List.takeWhile_cons_of_neg (by simp [isHigh, hc])]
    · have hp : isHigh c = true := by simp [isHigh, UInt8.not_lt.1 hc]
      rw [Byte.lower_of_not_lt hc, List.takeWhile_cons_of_pos hp, List.takeWhile_cons_of_pos hp, ih]

theorem head?_lower {a : UInt8} (ha : ¬ a < 0x80) (s : Bytes) :
    head? (a :: s.lower) = head? (a :: s) := by
  rw [← head?_takeWhile ha s.lower, takeWhile_lower, head?_takeWhile ha]

theorem head?_length {a : UInt8} {s : Bytes} {c : Char} {n : Nat} (h : head? (a :: s) = some (c, n)) :
    0 < n ∧ n ≤ s.length + 1 := by
  simp only [head?] at h
  split at h
  · cases h
    exact ⟨Nat.one_pos, Nat.le_add_left ..⟩
  split at h
  · cases h
  repeat' split at h
  all_goals cases h
  all_goals simp only [List.length_cons]; omega

theorem head?_of_lt {a : UInt8} (ha : a < 0x80) (s : Bytes) :
    head? (a :: s) = some (Char.ofNat a.toNat, 1) := by
  simp only [head?, if_pos ha]

end Utf8

namespace Fold

theorem fold_letter {n : Nat} (h : n < 26) :
    fold (Char.ofNat (0x61 + n)) = fold (Char.ofNat (0x41 + n)) := by
  revert n
  decide +kernel

theorem fold_lower (b : UInt8) :
    fold (Char.ofNat (Byte.lower b).toNat) = fold (Char.ofNat b.toNat) := by
  by_cases hb : Byte.isUpper b = true
  · obtain ⟨n, hn, hu, hl⟩ := Byte.exists_of_isUpper hb
    rw [hu, hl]
    exact fold_letter hn
  · rw [Byte.lower, if_neg hb]

/-- The folded characters of a reading. -/
def foldPieces (pieces : List Utf8.Piece) : List Char := pieces.map fun p => fold p.toChar

theorem foldPieces_cons (p : Utf8.Piece) (pieces : List Utf8.Piece) :
    foldPieces (p :: pieces) = fold p.toChar :: foldPieces pieces := rfl

theorem foldPieces_lower (skip : Nat) (s : Bytes) :
    foldPieces (Utf8.piecesFrom skip s.lower) = foldPieces (Utf8.piecesFrom skip s) := by
  induction s generalizing skip with
  | nil => rfl
  | cons a s ih =>
    cases skip with
    | succ skip => exact ih skip
    | zero =>
      by_cases ha : a < 0x80
      · simp only [Bytes.lower_cons, Utf8.piecesFrom, Utf8.head?_of_lt ha,
          Utf8.head?_of_lt (Byte.lower_lt ha), foldPieces_cons, Utf8.Piece.toChar, fold_lower, ih]
      · simp only [Bytes.lower_cons, Utf8.piecesFrom, Byte.lower_of_not_lt ha, Utf8.head?_lower ha]
        split
        · rw [foldPieces_cons, foldPieces_cons, ih]
        · rw [foldPieces_cons, foldPieces_cons, ih]

theorem alike_iff {s t : Bytes} :
    alike s t = true ↔ (Utf8.chars s).map fold = (Utf8.chars t).map fold := beq_iff_eq

theorem alike_refl (s : Bytes) : alike s s = true := alike_iff.2 rfl

theorem alike_symm {s t : Bytes} (h : alike s t = true) : alike t s = true :=
  alike_iff.2 (alike_iff.1 h).symm

theorem alike_trans {s t u : Bytes} (h₁ : alike s t = true) (h₂ : alike t u = true) :
    alike s u = true := alike_iff.2 ((alike_iff.1 h₁).trans (alike_iff.1 h₂))

theorem alike_lower (s : Bytes) : alike s s.lower = true := by
  rw [alike_iff]
  have h := foldPieces_lower 0 s
  simp only [Utf8.chars, Utf8.pieces, List.map_map]
  exact h.symm

end Fold

end Graft
