import Graft.Proofs.Text.Order
import Graft.Ulid
import Mathlib.Algebra.Group.Nat.Defs

/-!
# Graft.Proofs.Ulid.Sortable

Identifiers carry their time and sort by it. The ten digits of the time spell it in base 32, and the
alphabet is ascending, so texts compare as their times do.

* `spelled`, `spelled_digits`: the number that digits spell.
* `not_le_digits`: digits of a smaller number come first, whatever follows.
* `number_timeBytes`: the bytes packed from ten digits spell the same number.
* `labelled_sortable`: the time of a labelled identifier is read back, and smaller times come first.
-/

namespace Graft.Ulid

/-! ## Digits -/

theorem value_digit_of_lt : ∀ n < 32, value (digit n) = n.toUInt8 := by decide +kernel

theorem digit_lt_of_lt : ∀ a < 32, ∀ b < 32, a < b → digit a < digit b := by decide +kernel

theorem digit_ne_underscore_of_lt : ∀ n < 32, digit n ≠ Byte.underscore := by decide +kernel

theorem not_overflow_of_lt : ∀ n < 8, ¬ 0x37 < digit n := by decide +kernel

theorem digit_mod (n : Nat) : digit (n % 32) = digit n := by simp [digit]

theorem toNat_value_digit (n : Nat) : (value (digit n)).toNat = n % 32 := by
  have h : n % 32 < 32 := Nat.mod_lt n (by decide)
  rw [← digit_mod, value_digit_of_lt _ h]
  exact Nat.mod_eq_of_lt (by omega)

theorem digit_ne_underscore (n : Nat) : digit n ≠ Byte.underscore := by
  rw [← digit_mod]
  exact digit_ne_underscore_of_lt _ (Nat.mod_lt n (by decide))

theorem digit_lt {a b : Nat} (h : a % 32 < b % 32) : digit a < digit b := by
  rw [← digit_mod a, ← digit_mod b]
  exact digit_lt_of_lt _ (Nat.mod_lt a (by decide)) _ (Nat.mod_lt b (by decide)) h

theorem length_digits (width n : Nat) : (digits width n).length = width := by
  induction width generalizing n with
  | zero => rfl
  | succ width ih => simp [digits, ih]

theorem exists_of_mem_digits {c : UInt8} {width n : Nat} (h : c ∈ digits width n) :
    ∃ k, c = digit k := by
  induction width generalizing n with
  | zero => cases h
  | succ width ih =>
    rcases List.mem_append.1 h with h | h
    · exact ih h
    · exact ⟨n, List.mem_singleton.1 h⟩

theorem underscore_not_mem_digits (width n : Nat) : Byte.underscore ∉ digits width n := by
  intro h
  obtain ⟨k, hk⟩ := exists_of_mem_digits h
  exact digit_ne_underscore k hk.symm

theorem head?_digits (width n : Nat) :
    (digits (width + 1) n).head? = some (digit (n / 32 ^ width)) := by
  induction width generalizing n with
  | zero => simp [digits]
  | succ width ih =>
    rw [digits, List.head?_append, ih, Option.some_or, Nat.div_div_eq_div_mul, ← Nat.pow_succ']

/-- The number that values of digits spell, most significant first. -/
def spelled (values : Bytes) : Nat := values.foldl (fun n d => n * 32 + d.toNat) 0

theorem spelled_digits (width n : Nat) : spelled ((digits width n).map value) = n % 32 ^ width := by
  induction width generalizing n with
  | zero => simp [digits, spelled, Nat.mod_one]
  | succ width ih =>
    have hlast : spelled ((digits (width + 1) n).map value) =
        spelled ((digits width (n / 32)).map value) * 32 + n % 32 := by
      simp [digits, spelled, toNat_value_digit]
    rw [hlast, ih, Nat.pow_succ', Nat.mod_mul]
    omega

/-- Digits of a smaller number come first, whatever follows. -/
theorem not_le_digits {width a b : Nat} (hab : a < b) (hb : b < 32 ^ width) (s t : Bytes) :
    Bytes.le (digits width b ++ t) (digits width a ++ s) = false := by
  induction width generalizing a b s t with
  | zero => omega
  | succ width ih =>
    have hquotient : b / 32 < 32 ^ width := by
      rw [Nat.pow_succ] at hb
      omega
    simp only [digits, List.append_assoc]
    by_cases hlt : a / 32 < b / 32
    · exact ih hlt hquotient _ _
    · have hsame : a / 32 = b / 32 := by omega
      have hdigit : digit a < digit b := digit_lt (by omega)
      rw [hsame, Bytes.le_append_left]
      exact Bytes.not_le_cons hdigit s t

/-! ## Bits -/

theorem toNat_shiftLeft_or {a b k : UInt8} {low : Nat} (hk : k.toNat < 8) (hb : b.toNat = low)
    (hlow : low < 2 ^ k.toNat) :
    (a <<< k ||| b).toNat = a.toNat * 2 ^ k.toNat % 256 + low := by
  have hsplit : (256 : Nat) = 2 ^ (8 - k.toNat) * 2 ^ k.toNat := by
    rw [← Nat.pow_add, Nat.sub_add_cancel (by omega)]
  rw [UInt8.toNat_or, UInt8.toNat_shiftLeft, Nat.mod_eq_of_lt hk, Nat.shiftLeft_eq, hb,
    show 2 ^ 8 = 256 from rfl, hsplit, Nat.mul_mod_mul_right, ← Nat.shiftLeft_eq,
    Nat.shiftLeft_add_eq_or_of_lt hlow]

theorem toNat_shiftRight {a k : UInt8} (hk : k.toNat < 8) :
    (a >>> k).toNat = a.toNat / 2 ^ k.toNat := by
  rw [UInt8.toNat_shiftRight, Nat.mod_eq_of_lt hk, Nat.shiftRight_eq_div_pow]

theorem number_timeBytes {ds : Bytes} (hlen : ds.length = 10) (hdigits : ∀ d ∈ ds, d.toNat < 32)
    (hlt : spelled ds < 2 ^ 48) (rest : Bytes) : number (timeBytes (ds ++ rest)) = spelled ds := by
  obtain ⟨d0, d1, d2, d3, d4, d5, d6, d7, d8, d9, rfl⟩ :
      ∃ d0 d1 d2 d3 d4 d5 d6 d7 d8 d9, ds = [d0, d1, d2, d3, d4, d5, d6, d7, d8, d9] := by
    match ds, hlen with
    | [d0, d1, d2, d3, d4, d5, d6, d7, d8, d9], _ =>
      exact ⟨d0, d1, d2, d3, d4, d5, d6, d7, d8, d9, rfl⟩
  simp only [spelled, List.foldl_cons, List.foldl_nil] at hlt
  simp only [List.forall_mem_cons] at hdigits
  obtain ⟨h0, h1, h2, h3, h4, h5, h6, h7, h8, h9, -⟩ := hdigits
  have b0 : (d0 <<< 5 ||| d1).toNat = d0.toNat * 32 % 256 + d1.toNat :=
    toNat_shiftLeft_or (by decide) rfl h1
  have b1 : (d2 <<< 3 ||| d3 >>> 2).toNat = d2.toNat * 8 % 256 + d3.toNat / 4 :=
    toNat_shiftLeft_or (by decide) (toNat_shiftRight (by decide)) (show _ / 4 < 8 by omega)
  have b2 : (d3 <<< 6 ||| d4 <<< 1 ||| d5 >>> 4).toNat =
      d3.toNat * 64 % 256 + (d4.toNat * 2 % 256 + d5.toNat / 16) := by
    rw [UInt8.or_assoc]
    exact toNat_shiftLeft_or (by decide)
      (toNat_shiftLeft_or (by decide) (toNat_shiftRight (by decide)) (show _ / 16 < 2 by omega))
      (show _ * 2 % 256 + _ / 16 < 64 by omega)
  have b3 : (d5 <<< 4 ||| d6 >>> 1).toNat = d5.toNat * 16 % 256 + d6.toNat / 2 :=
    toNat_shiftLeft_or (by decide) (toNat_shiftRight (by decide)) (show _ / 2 < 16 by omega)
  have b4 : (d6 <<< 7 ||| d7 <<< 2 ||| d8 >>> 3).toNat =
      d6.toNat * 128 % 256 + (d7.toNat * 4 % 256 + d8.toNat / 8) := by
    rw [UInt8.or_assoc]
    exact toNat_shiftLeft_or (by decide)
      (toNat_shiftLeft_or (by decide) (toNat_shiftRight (by decide)) (show _ / 8 < 4 by omega))
      (show _ * 4 % 256 + _ / 8 < 128 by omega)
  have b5 : (d8 <<< 5 ||| d9).toNat = d8.toNat * 32 % 256 + d9.toNat :=
    toNat_shiftLeft_or (by decide) rfl h9
  -- The remainders by 256 drop nothing that the quotients of the next byte do not bring back.
  simp only [List.cons_append, timeBytes, number, spelled, List.foldl_cons, List.foldl_nil,
    b0, b1, b2, b3, b4, b5]
  omega

/-! ## Identifiers -/

theorem length_encode (milliseconds : Nat) (entropy : Bytes) :
    (encode milliseconds entropy).length = textLength := by
  simp [encode, length_digits, textLength]

theorem time_encode {milliseconds : Nat} (h : milliseconds < 2 ^ 48) (entropy : Bytes) :
    time (encode milliseconds entropy) = .ok milliseconds := by
  have hspelled : spelled ((digits 10 milliseconds).map value) = milliseconds := by
    rw [spelled_digits]
    exact Nat.mod_eq_of_lt (by omega)
  have hvalues : ∀ d ∈ (digits 10 milliseconds).map value, d.toNat < 32 := by
    intro d hd
    obtain ⟨c, hc, rfl⟩ := List.mem_map.1 hd
    obtain ⟨n, rfl⟩ := exists_of_mem_digits hc
    rw [toNat_value_digit]
    omega
  have hfirst : ¬ 0x37 < digit (milliseconds / 32 ^ 9) := not_overflow_of_lt _ (by omega)
  rw [time, if_neg (by simp [length_encode]), encode, List.head?_append, head?_digits,
    Option.some_or, Option.any_some, if_neg (by simpa using hfirst), List.map_append,
    number_timeBytes (by simp [length_digits]) hvalues (by omega), hspelled]

theorem unlabelled_labelled (label : Bytes) (milliseconds : Nat) (entropy : Bytes) :
    unlabelled (labelled label milliseconds entropy) = encode milliseconds entropy := by
  have hdigits : ∀ c ∈ (encode milliseconds entropy).reverse, (c != Byte.underscore) = true := by
    intro c hc
    rw [List.mem_reverse, encode, List.mem_append] at hc
    rw [bne_iff_ne]
    rintro rfl
    exact hc.elim (underscore_not_mem_digits _ _) (underscore_not_mem_digits _ _)
  have hsplit : (labelled label milliseconds entropy).reverse =
      (encode milliseconds entropy).reverse ++ Byte.underscore :: label.reverse := by
    simp [labelled, show Bytes.ofString "_" = [Byte.underscore] by decide]
  rw [unlabelled, hsplit, List.takeWhile_append_of_pos hdigits, List.takeWhile_cons_of_neg (by simp)]
  simp

/-- The time of an identifier is read back, whatever its label and its entropy, and among identifiers
with the same label the ones with a smaller time come strictly first in the bytewise order. -/
theorem labelled_sortable (label : Bytes) {milliseconds : Nat} (h : milliseconds < 2 ^ 48)
    (entropy : Bytes) :
    timestamp (labelled label milliseconds entropy) = .ok milliseconds ∧
      ∀ earlier < milliseconds, ∀ entropy' : Bytes,
        Bytes.le (labelled label earlier entropy') (labelled label milliseconds entropy) = true ∧
          labelled label earlier entropy' ≠ labelled label milliseconds entropy := by
  refine ⟨?_, ?_⟩
  · rw [timestamp, unlabelled_labelled, time_encode h]
  · intro earlier hearlier entropy'
    refine Bytes.lt_of_not_le ?_
    simp only [labelled, encode, Bytes.le_append_left]
    exact not_le_digits hearlier (by omega) _ _

/-- A label with an underscore, and times next to each other at the end of the range. -/
theorem labelled_sortable_last :
    2 ^ 48 - 1 < 2 ^ 48 ∧
      timestamp (labelled "my_build" (2 ^ 48 - 1) (List.replicate 10 0)) = .ok (2 ^ 48 - 1) ∧
      Bytes.le (labelled "my_build" (2 ^ 48 - 2) (List.replicate 10 0xFF))
        (labelled "my_build" (2 ^ 48 - 1) (List.replicate 10 0)) = true := by
  have hlt : 2 ^ 48 - 1 < 2 ^ 48 := by decide
  have h := labelled_sortable "my_build" hlt (List.replicate 10 0)
  exact ⟨hlt, h.1, (h.2 (2 ^ 48 - 2) (by decide) _).1⟩

end Graft.Ulid
