import Graft.Proofs.Text.Case

/-!
# Graft.Proofs.Text.Utf8

Well-formed texts. A character tells the bytes it is read from, and a byte below 0x80 takes a text
apart into texts that are well-formed by themselves.

* `Utf8.head?_injective`: texts that begin with the same character begin with the same bytes.
* `Utf8.exists_of_isValid`: the first character of a well-formed text.
* `Utf8.isValid_append_cons`: a well-formed text around a byte below 0x80.
-/

namespace Graft.Utf8

/-! ## Characters -/

/-- The bytes of a scalar value, by their numbers. -/
def numbers (v : Nat) : List Nat :=
  if v < 0x80 then [v]
  else if v < 0x800 then [0xC0 + v / 64, 0x80 + v % 64]
  else if v < 0x10000 then [0xE0 + v / 4096, 0x80 + v / 64 % 64, 0x80 + v % 64]
  else [0xF0 + v / 262144, 0x80 + v / 4096 % 64, 0x80 + v / 64 % 64, 0x80 + v % 64]

theorem toNat_ofNat {v : Nat} (h : v.isValidChar) : (Char.ofNat v).toNat = v := by
  rw [Char.ofNat, dif_pos h]
  rfl

/-- Second bytes are continuation bytes, and neither overlong forms nor surrogates nor values above
U+10FFFF begin with them. -/
structure IsSecond (a b : Nat) : Prop where
  low : 0x80 ≤ b
  high : b ≤ 0xBF
  three : a = 0xE0 → 0xA0 ≤ b
  surrogate : a = 0xED → b ≤ 0x9F
  four : a = 0xF0 → 0x90 ≤ b
  last : a = 0xF4 → b ≤ 0x8F

theorem isSecond_of_range {a b : UInt8}
    (h : ¬ (decide (b < (secondRange a).1) || decide ((secondRange a).2 < b)) = true) :
    IsSecond a.toNat b.toNat := by
  have hlead {n : UInt8} : a = n ↔ a.toNat = n.toNat := UInt8.toNat_inj.symm
  rw [Bool.or_eq_true, decide_eq_true_iff, decide_eq_true_iff, not_or, UInt8.not_lt, UInt8.not_lt,
    UInt8.le_iff_toNat_le, UInt8.le_iff_toNat_le, secondRange] at h
  simp only [hlead] at h
  repeat' split at h
  all_goals
    simp only [UInt8.reduceToNat] at *
    constructor <;> omega

theorem continuation_bounds {b : UInt8} (h : ¬ (!isContinuation b) = true) :
    0x80 ≤ b.toNat ∧ b.toNat ≤ 0xBF := by
  simpa [isContinuation, UInt8.le_iff_toNat_le] using h

section

variable {a b c d : Nat}

theorem numbers_two (ha : 0xC2 ≤ a) (ha' : a < 0xE0) (hb : IsSecond a b) :
    (a % 32 * 64 + b % 64).isValidChar ∧ numbers (a % 32 * 64 + b % 64) = [a, b] := by
  have hlow := hb.low
  have hhigh := hb.high
  refine ⟨.inl (by omega), ?_⟩
  rw [numbers, if_neg (by omega), if_pos (by omega)]
  simp only [List.cons.injEq, and_true]
  omega

theorem numbers_three (ha : 0xE0 ≤ a) (ha' : a < 0xF0) (hb : IsSecond a b)
    (hc : 0x80 ≤ c ∧ c ≤ 0xBF) :
    (a % 16 * 4096 + b % 64 * 64 + c % 64).isValidChar ∧
      numbers (a % 16 * 4096 + b % 64 * 64 + c % 64) = [a, b, c] := by
  obtain ⟨hlow, hhigh, hthree, hsurrogate, -, -⟩ := hb
  have hscalar : (a % 16 * 4096 + b % 64 * 64 + c % 64).isValidChar := by
    rw [Nat.isValidChar]
    omega
  refine ⟨hscalar, ?_⟩
  rw [numbers, if_neg (by omega), if_neg (by omega), if_pos (by omega)]
  simp only [List.cons.injEq, and_true]
  omega

theorem numbers_four (ha : 0xF0 ≤ a) (ha' : a < 0xF5) (hb : IsSecond a b)
    (hc : 0x80 ≤ c ∧ c ≤ 0xBF) (hd : 0x80 ≤ d ∧ d ≤ 0xBF) :
    (a % 8 * 262144 + b % 64 * 4096 + c % 64 * 64 + d % 64).isValidChar ∧
      numbers (a % 8 * 262144 + b % 64 * 4096 + c % 64 * 64 + d % 64) = [a, b, c, d] := by
  obtain ⟨hlow, hhigh, -, -, hfour, hlast⟩ := hb
  refine ⟨.inr (by omega), ?_⟩
  rw [numbers, if_neg (by omega), if_neg (by omega), if_neg (by omega)]
  simp only [List.cons.injEq, and_true]
  omega

end

theorem map_toNat_take {s : Bytes} {k : Char} {n : Nat} (h : head? s = some (k, n)) :
    (s.take n).map UInt8.toNat = numbers k.toNat := by
  have hlt {x y : UInt8} : x < y ↔ x.toNat < y.toNat := UInt8.lt_iff_toNat_lt
  cases s with
  | nil => cases h
  | cons a s =>
    rw [head?] at h
    split at h
    · rename_i ha
      cases h
      have hone : a.toNat < 0x80 := hlt.1 ha
      rw [toNat_ofNat (.inl (by omega)), numbers, if_pos hone]
      rfl
    split at h
    · cases h
    rename_i hlead
    rw [hlt, Nat.not_lt] at hlead
    dsimp only at h
    cases s with
    | nil => cases h
    | cons b s =>
      dsimp only at h
      split at h
      · cases h
      rename_i hsecond
      have hb := isSecond_of_range hsecond
      split at h
      · rename_i htwo
        cases h
        obtain ⟨hscalar, hnumbers⟩ := numbers_two hlead (hlt.1 htwo) hb
        exact hnumbers.symm.trans (congrArg numbers (toNat_ofNat hscalar).symm)
      rename_i htwo
      rw [hlt, Nat.not_lt] at htwo
      cases s with
      | nil => cases h
      | cons c s =>
        dsimp only at h
        split at h
        · cases h
        rename_i hc
        have hc := continuation_bounds hc
        split at h
        · rename_i hthree
          cases h
          obtain ⟨hscalar, hnumbers⟩ := numbers_three htwo (hlt.1 hthree) hb hc
          exact hnumbers.symm.trans (congrArg numbers (toNat_ofNat hscalar).symm)
        rename_i hthree
        rw [hlt, Nat.not_lt] at hthree
        split at h
        · rename_i hfour
          cases s with
          | nil => cases h
          | cons d s =>
            dsimp only at h
            split at h
            · cases h
            rename_i hd
            cases h
            obtain ⟨hscalar, hnumbers⟩ :=
              numbers_four hthree (hlt.1 hfour) hb hc (continuation_bounds hd)
            exact hnumbers.symm.trans (congrArg numbers (toNat_ofNat hscalar).symm)
        · cases h

theorem head?_injective {s t : Bytes} {k : Char} {n m : Nat} (hs : head? s = some (k, n))
    (ht : head? t = some (k, m)) : n = m ∧ s.take n = t.take m := by
  have hlen {s : Bytes} {n : Nat} (h : head? s = some (k, n)) : (s.take n).length = n := by
    cases s with
    | nil => cases h
    | cons a s => exact List.length_take_of_le (head?_length h).2
  have htake : s.take n = t.take m :=
    (List.map_inj_right fun _ _ => UInt8.toNat_inj.1).1
      ((map_toNat_take hs).trans (map_toNat_take ht).symm)
  exact ⟨by rw [← hlen hs, htake, hlen ht], htake⟩

/-! ## Well-formed texts -/

@[simp] theorem isValid_nil : isValid [] = true := rfl

theorem piecesFrom_eq (skip : Nat) (s : Bytes) : piecesFrom skip s = pieces (s.drop skip) := by
  induction s generalizing skip with
  | nil => cases skip <;> rfl
  | cons b s ih =>
    cases skip with
    | zero => rfl
    | succ skip => exact ih skip

theorem isValid_of_head? {s : Bytes} {k : Char} {n : Nat} (h : head? s = some (k, n)) :
    isValid s = isValid (s.drop n) := by
  cases s with
  | nil => cases h
  | cons b s =>
    obtain ⟨hpos, _⟩ := head?_length h
    obtain ⟨n, rfl⟩ := Nat.exists_eq_succ_of_ne_zero (Nat.pos_iff_ne_zero.1 hpos)
    rw [isValid, pieces, piecesFrom, h]
    dsimp only
    rw [piecesFrom_eq, List.all_cons]
    rfl

theorem isValid_of_none {s : Bytes} (hne : s ≠ []) (h : head? s = none) : isValid s = false := by
  cases s with
  | nil => exact absurd rfl hne
  | cons b s =>
    rw [isValid, pieces, piecesFrom, h]
    rfl

theorem exists_of_isValid {s : Bytes} (h : isValid s = true) (hne : s ≠ []) :
    ∃ k n, head? s = some (k, n) ∧ isValid (s.drop n) = true := by
  cases hhead : head? s with
  | some p =>
    obtain ⟨k, n⟩ := p
    exact ⟨k, n, rfl, (isValid_of_head? hhead).symm.trans h⟩
  | none =>
    rw [isValid_of_none hne hhead] at h
    cases h

theorem takeWhile_isHigh_append {c : UInt8} (hc : c < 0x80) (s t : Bytes) :
    (s ++ c :: t).takeWhile isHigh = s.takeWhile isHigh := by
  rw [List.takeWhile_append]
  split
  · rename_i hall
    rw [List.takeWhile_cons_of_neg (by simp [isHigh, hc]), List.append_nil]
    exact (List.IsPrefix.eq_of_length (List.takeWhile_prefix _) hall).symm
  · rfl

theorem isValid_append_cons {c : UInt8} (hc : c < 0x80) (s t : Bytes) :
    isValid (s ++ c :: t) = (isValid s && isValid t) := by
  induction hlen : s.length using Nat.strongRecOn generalizing s with
  | ind len ih =>
    cases s with
    | nil => exact isValid_of_head? (head?_of_lt hc t)
    | cons b s =>
      have hhead : head? (b :: s ++ c :: t) = head? (b :: s) := by
        by_cases hb : b < 0x80
        · rw [List.cons_append, head?_of_lt hb, head?_of_lt hb]
        · rw [List.cons_append, ← head?_takeWhile hb (s ++ c :: t), takeWhile_isHigh_append hc,
            head?_takeWhile hb]
      cases hfirst : head? (b :: s) with
      | none =>
        rw [hfirst] at hhead
        rw [isValid_of_none (by simp) hfirst, isValid_of_none (by simp) hhead, Bool.false_and]
      | some p =>
        obtain ⟨k, n⟩ := p
        rw [hfirst] at hhead
        obtain ⟨hpos, hle⟩ := head?_length hfirst
        rw [isValid_of_head? hhead, isValid_of_head? hfirst,
          List.drop_append_of_le_length (by simpa using hle)]
        refine ih _ ?_ _ rfl
        rw [← hlen, List.length_drop]
        simp only [List.length_cons]
        omega

end Graft.Utf8
