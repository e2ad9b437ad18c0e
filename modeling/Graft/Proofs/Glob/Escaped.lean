import Graft.Glob
import Graft.Proofs.Text.Utf8

/-!
# Graft.Proofs.Glob.Escaped

An escaped text is a pattern that matches the text and no other. An escape stands before a character
of one byte, so the characters of the pattern are those of the text, and every step of a match takes
one of each.

* `Glob.isValid_escape`: an escaped text is a pattern.
* `Glob.firstChar_escape`, `Glob.drop_escape`: the characters of an escaped text.
* `Glob.step_escape`, `Glob.literal_escape`: one step of the match.
* `Glob.accepts_escape`, `Glob.accepts_escape_iff`: the whole match.
-/

namespace Graft.Glob

open Utf8 (isHigh)

theorem escape_cons (c : UInt8) (s : Bytes) :
    escape (c :: s) = (if special.contains c then [Byte.backslash, c] else [c]) ++ escape s := rfl

theorem escape_special {c : UInt8} (h : special.contains c = true) (s : Bytes) :
    escape (c :: s) = Byte.backslash :: c :: escape s := by
  rw [escape_cons, if_pos h]
  rfl

theorem escape_literal {c : UInt8} (h : special.contains c = false) (s : Bytes) :
    escape (c :: s) = c :: escape s := by
  rw [escape_cons, h, if_neg Bool.false_ne_true]
  rfl

/-- Every byte that is not literal is a character of its own. -/
theorem lt_of_special {c : UInt8} (h : special.contains c = true) : c < 0x80 := by
  have hall : ∀ c ∈ special, c < 0x80 := forall_mem_of_all (by decide)
  exact hall c (by simpa using h)

theorem not_special {c : UInt8} (h : isHigh c = true) : special.contains c = false := by
  cases hc : special.contains c with
  | false => rfl
  | true => simp [isHigh, lt_of_special hc] at h

theorem takeWhile_escape (s : Bytes) : (escape s).takeWhile isHigh = s.takeWhile isHigh := by
  induction s with
  | nil => rfl
  | cons c s ih =>
    cases hc : special.contains c with
    | true =>
      rw [escape_special hc, List.takeWhile_cons_of_neg (by decide),
        List.takeWhile_cons_of_neg (by simp [isHigh, lt_of_special hc])]
    | false =>
      rw [escape_literal hc]
      by_cases hhigh : isHigh c = true
      · rw [List.takeWhile_cons_of_pos hhigh, List.takeWhile_cons_of_pos hhigh, ih]
      · rw [List.takeWhile_cons_of_neg hhigh, List.takeWhile_cons_of_neg hhigh]

theorem drop_escape {s : Bytes} {n : Nat} (h : n ≤ (s.takeWhile isHigh).length) :
    (escape s).drop n = escape (s.drop n) := by
  induction n generalizing s with
  | zero => rfl
  | succ n ih =>
    cases s with
    | nil => rfl
    | cons c s =>
      by_cases hhigh : isHigh c = true
      · rw [List.takeWhile_cons_of_pos hhigh, List.length_cons] at h
        rw [escape_literal (not_special hhigh), List.drop_succ_cons, List.drop_succ_cons]
        exact ih (Nat.le_of_succ_le_succ h)
      · rw [List.takeWhile_cons_of_neg hhigh] at h
        exact absurd h (Nat.not_succ_le_zero n)

theorem firstChar_cons (c : UInt8) (s : Bytes) :
    firstChar (c :: s) = (Utf8.head? (c :: s)).getD (Utf8.replacement, 1) := by
  unfold firstChar
  cases Utf8.head? (c :: s) <;> rfl

theorem firstChar_of_lt {c : UInt8} (h : c < 0x80) (s : Bytes) :
    firstChar (c :: s) = (Char.ofNat c.toNat, 1) := by
  rw [firstChar_cons, Utf8.head?_of_lt h]
  rfl

/-- The first character of an escaped text that does not begin with an escape. -/
theorem firstChar_escape (c : UInt8) (s : Bytes) :
    firstChar (c :: escape s) = firstChar (c :: s) := by
  by_cases hc : c < 0x80
  · rw [firstChar_of_lt hc, firstChar_of_lt hc]
  · rw [firstChar_cons, firstChar_cons, ← Utf8.head?_takeWhile hc (escape s), takeWhile_escape,
      Utf8.head?_takeWhile hc]

theorem length_firstChar (c : UInt8) (s : Bytes) :
    ∃ n ≤ (s.takeWhile isHigh).length, (firstChar (c :: s)).2 = n + 1 := by
  by_cases hc : c < 0x80
  · exact ⟨0, Nat.zero_le _, by rw [firstChar_of_lt hc]⟩
  · rw [firstChar_cons, ← Utf8.head?_takeWhile hc]
    cases hhead : Utf8.head? (c :: s.takeWhile isHigh) with
    | none => exact ⟨0, Nat.zero_le _, rfl⟩
    | some p =>
      obtain ⟨k, n⟩ := p
      obtain ⟨hpos, hle⟩ := Utf8.head?_length hhead
      exact ⟨n - 1, by omega, by simp only [Option.getD_some]; omega⟩

theorem drop_firstChar_escape (c : UInt8) (s : Bytes) :
    (c :: escape s).drop (firstChar (c :: s)).2 =
      escape ((c :: s).drop (firstChar (c :: s)).2) := by
  obtain ⟨n, hn, hlen⟩ := length_firstChar c s
  rw [hlen, List.drop_succ_cons, List.drop_succ_cons, drop_escape hn]

theorem literal_escape {c : UInt8} {s name : Bytes}
    (h : (firstChar (c :: s)).1 = (firstChar name).1) (pattern rest stop : Bytes) (start : Bool) :
    ∃ start', literal ⟨pattern, rest, name, start, none, none⟩ (c :: escape s) stop =
      .goOn ⟨pattern, escape ((c :: s).drop (firstChar (c :: s)).2), name.drop (firstChar name).2,
        start', none, none⟩ := by
  refine ⟨(firstChar (c :: s)).1 == '/', ?_⟩
  rw [literal, firstChar_escape]
  dsimp only
  rw [if_pos h, drop_firstChar_escape]

/-- Every step takes a byte that is not literal behind its escape, or any other character. -/
theorem step_escape (pattern : Bytes) (start : Bool) (c : UInt8) (s name : Bytes) :
    ∃ stop, step ⟨pattern, escape (c :: s), name, start, none, none⟩ =
      literal ⟨pattern, escape (c :: s), name, start, none, none⟩ (c :: escape s) stop := by
  cases hc : special.contains c with
  | true =>
    rw [escape_special hc, step]
    exact ⟨_, rfl⟩
  | false =>
    have hne : ∀ b ∈ special, c ≠ b := by
      rintro b hb rfl
      simp [hb] at hc
    rw [escape_literal hc, step]
    dsimp only
    rw [if_neg (hne Byte.star (by decide)), if_neg (hne Byte.question (by decide)),
      if_neg (hne Byte.openBracket (by decide)), if_neg (hne Byte.openBrace (by decide)),
      if_neg (hne Byte.backslash (by decide))]
    exact ⟨_, rfl⟩

theorem run_escape (pattern : Bytes) {fuel : Nat} {s : Bytes} (hfuel : s.length < fuel)
    (start : Bool) : run fuel ⟨pattern, escape s, s, start, none, none⟩ = .matched := by
  induction fuel generalizing s start with
  | zero => cases hfuel
  | succ fuel ih =>
    cases s with
    | nil => rfl
    | cons c s =>
      obtain ⟨stop, hstep⟩ := step_escape pattern start c s (c :: s)
      have hsame : (firstChar (c :: s)).1 = (firstChar (c :: s)).1 := rfl
      obtain ⟨start', hliteral⟩ := literal_escape hsame pattern (escape (c :: s)) stop start
      obtain ⟨n, _, hlen⟩ := length_firstChar c s
      rw [run]
      dsimp only
      rw [if_neg (by simp), hstep, hliteral]
      refine ih ?_ start'
      rw [hlen, List.drop_succ_cons, List.length_drop]
      rw [List.length_cons] at hfuel
      omega

theorem accepts_escape (s : Bytes) : accepts (escape s) s = true := by
  have hsquare (n : Nat) : n + 2 ≤ (n + 2) * (n + 2) := Nat.le_mul_of_pos_right _ (Nat.succ_pos _)
  have hfuel : s.length < enough (escape s) s := calc
    s.length < s.length + 2 := by omega
    _ ≤ (s.length + 2) * (s.length + 2) := hsquare s.length
    _ ≤ enough (escape s) s :=
      Nat.le_mul_of_pos_left _ (Nat.lt_of_lt_of_le (Nat.succ_pos _) (hsquare (escape s).length))
  rw [accepts, run_escape (escape s) hfuel]
  rfl

/-! ## Nothing else is matched -/

theorem isValid_escape (s : Bytes) : isValid (escape s) = true := by
  rw [isValid]
  induction s with
  | nil => rfl
  | cons c s ih =>
    cases hc : special.contains c with
    | true =>
      rw [escape_special hc, isValidFrom, if_pos rfl]
      exact ih
    | false =>
      have hne : ∀ b ∈ special, c ≠ b := by
        rintro b hb rfl
        simp [hb] at hc
      rw [escape_literal hc, isValidFrom, if_neg (hne Byte.backslash (by decide)),
        if_neg (hne Byte.openBracket (by decide)), if_neg (hne Byte.openBrace (by decide)),
        if_neg (hne Byte.closeBrace (by decide))]
      exact ih

/-- An escaped text begins with no byte that is not literal but an escape. -/
theorem head?_escape_ne {b : UInt8} (hb : special.contains b = true) (hne : b ≠ Byte.backslash)
    (s : Bytes) : (escape s).head? ≠ some b := by
  intro h
  cases s with
  | nil => cases h
  | cons c s =>
    cases hc : special.contains c with
    | true =>
      rw [escape_special hc] at h
      exact hne (Option.some.inj h).symm
    | false =>
      rw [escape_literal hc] at h
      rw [Option.some.inj h, hb] at hc
      cases hc

theorem escape_not_mem_emptyRests {s : Bytes} (hne : s ≠ []) : escape s ∉ emptyRests := by
  intro hmem
  have hrests : ∀ rest ∈ emptyRests, rest = [] ∨ rest.head? = some Byte.star ∨
      rest.head? = some Byte.slash ∧ rest.tail.head? = some Byte.star := by decide
  cases s with
  | nil => exact hne rfl
  | cons c s =>
    cases hc : special.contains c with
    | true =>
      rw [escape_special hc] at hmem
      rcases hrests _ hmem with h | h | ⟨h, _⟩ <;> cases h
    | false =>
      rcases hrests _ hmem with h | h | ⟨_, h⟩
      · rw [escape_literal hc] at h
        cases h
      · exact head?_escape_ne (by decide) (by decide) _ h
      · rw [escape_literal hc] at h
        exact head?_escape_ne (by decide) (by decide) s h

/-- Where the name ends an escaped text matches only if it ends as well. -/
theorem eq_nil_of_matchEmpty {fuel : Nat} {s : Bytes} (h : matchEmpty fuel (escape s) = .matched) :
    s = [] := by
  cases fuel with
  | zero => cases h
  | succ fuel =>
    refine Decidable.byContradiction fun hne => ?_
    have hrests : ¬ emptyRests.contains (escape s) = true := by
      simpa using escape_not_mem_emptyRests hne
    rw [matchEmpty, if_neg hrests, if_neg (head?_escape_ne (by decide) (by decide) s),
      if_pos (isValid_escape s)] at h
    cases h

/-- A character that is not the next one of the name ends the match. -/
theorem literal_of_ne (cursor : Cursor) {s : Bytes}
    (h : (firstChar s).1 ≠ (firstChar cursor.name).1) (hstar : cursor.star = none)
    (hdouble : cursor.doubleStar = none) (stop : Bytes) :
    ∃ v, v ≠ .matched ∧ literal cursor s stop = .done v := by
  rw [literal]
  dsimp only
  rw [if_neg h, retry, hstar]
  dsimp only
  rw [retryDoubleStar, hdouble]
  refine ⟨_, ?_, rfl⟩
  split <;> simp

theorem firstChar_of_head? {s : Bytes} {p : Char × Nat} (h : Utf8.head? s = some p) :
    firstChar s = p := by
  cases s with
  | nil => cases h
  | cons b s =>
    rw [firstChar_cons, h]
    rfl

/-- Among well-formed texts an escaped text matches none but itself. -/
theorem eq_of_run_escape {pattern : Bytes} {fuel : Nat} {s name : Bytes} {start : Bool}
    (hs : Utf8.isValid s = true) (hname : Utf8.isValid name = true)
    (h : run fuel ⟨pattern, escape s, name, start, none, none⟩ = .matched) : name = s := by
  induction fuel generalizing s name start with
  | zero => cases h
  | succ fuel ih =>
    rw [run] at h
    dsimp only at h
    by_cases hnil : name = []
    · subst hnil
      exact (eq_nil_of_matchEmpty h).symm
    rw [if_neg (by simpa using hnil)] at h
    cases s with
    | nil => cases h
    | cons c s =>
      obtain ⟨stop, hstep⟩ := step_escape pattern start c s name
      rw [hstep] at h
      by_cases hsame : (firstChar (c :: s)).1 = (firstChar name).1
      · obtain ⟨start', hliteral⟩ := literal_escape hsame pattern (escape (c :: s)) stop start
        rw [hliteral] at h
        obtain ⟨k, n, hk, hs⟩ := Utf8.exists_of_isValid hs (List.cons_ne_nil c s)
        obtain ⟨k', m, hk', hname⟩ := Utf8.exists_of_isValid hname hnil
        rw [firstChar_of_head? hk, firstChar_of_head? hk'] at h hsame
        obtain rfl : k = k' := hsame
        obtain ⟨rfl, htake⟩ := Utf8.head?_injective hk hk'
        rw [← List.take_append_drop n name, ih hs hname h, ← htake, List.take_append_drop]
      · rw [← firstChar_escape] at hsame
        obtain ⟨v, hv, hdone⟩ := literal_of_ne
          ⟨pattern, escape (c :: s), name, start, none, none⟩ hsame rfl rfl stop
        rw [hdone] at h
        exact absurd h hv

theorem accepts_escape_iff {s name : Bytes} (hs : Utf8.isValid s = true)
    (hname : Utf8.isValid name = true) : accepts (escape s) name = true ↔ name = s := by
  constructor
  · intro h
    exact eq_of_run_escape hs hname (beq_iff_eq.1 h)
  · rintro rfl
    exact accepts_escape name

end Graft.Glob
