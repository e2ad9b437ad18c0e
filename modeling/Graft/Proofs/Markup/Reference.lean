import Graft.Component.Write
import Graft.Markup.Render
import Graft.Proofs.Text.Case

/-!
# Graft.Proofs.Markup.Reference

Character references undo the escaping of the writers.

* `Entity.Spells`: a text that is read as one byte wherever it stands.
* `Entity.decode_flatMap`: an escaping that spells every byte is undone by decoding.
* `decodeText_escape`, `decodeValue_escape`: escaped text and values are read back exactly.
* `decodeValue_escapeValue`: a block value is read back with its line ends normalized.
* `decodeComment_escapeComment`: so is a comment without carriage returns and zero bytes.
* `nul_not_mem_decodeRaw`, `decodeText_ne_nil`: what decoded data never is.
-/

namespace Graft

namespace Utf8

theorem encode_ne_nil (c : Char) : encode c ≠ [] := String.utf8EncodeChar_ne_nil

theorem nul_not_mem_encode {c : Char} (h : c.toNat ≠ 0) : Byte.nul ∉ encode c := by
  have hc : c.val.toNat ≠ 0 := h
  have hz : ∀ n : Nat, n % 256 ≠ 0 → Byte.nul ≠ UInt8.ofNat n := by
    intro n hn he
    have := congrArg UInt8.toNat he
    simp only [UInt8.toNat_ofNat] at this
    exact hn this.symm
  have hv : c.val.toNat < 0x110000 := by
    rcases c.valid with h | h <;> omega
  unfold encode String.utf8EncodeChar
  dsimp only
  split
  · simp only [List.mem_singleton]
    exact hz _ (by omega)
  split
  · simp only [List.mem_cons, List.not_mem_nil, or_false, not_or]
    exact ⟨hz _ (by omega), hz _ (by omega)⟩
  split
  · simp only [List.mem_cons, List.not_mem_nil, or_false, not_or]
    exact ⟨hz _ (by omega), hz _ (by omega), hz _ (by omega)⟩
  · simp only [List.mem_cons, List.not_mem_nil, or_false, not_or]
    exact ⟨hz _ (by omega), hz _ (by omega), hz _ (by omega), hz _ (by omega)⟩

end Utf8

namespace Markup

namespace Entity

/-! ## What a reference stands for -/

/-- A code point that is a character other than U+0000. -/
def isSolid (n : Nat) : Bool := n != 0 && decide n.isValidChar

theorem entries_solid (c : Char) :
    (entries c).all (fun e => !e.2.isEmpty && e.2.all isSolid) = true := by
  unfold entries
  split <;> decide +kernel

theorem mem_of_lookup {α β : Type} [BEq α] [LawfulBEq α] {k : α} {v : β} :
    ∀ {l : List (α × β)}, l.lookup k = some v → (k, v) ∈ l := by
  intro l
  induction l with
  | nil => intro h; cases h
  | cons e l ih =>
    intro h
    rw [List.lookup_cons] at h
    split at h
    · rename_i hk
      cases h
      rw [eq_of_beq hk]
      exact List.mem_cons_self
    · exact List.mem_cons_of_mem _ (ih h)

/-- A name stands for at least one code point, and none of them is zero. -/
theorem lookup?_solid {name : Bytes} {codes : List Nat} (h : lookup? name = some codes) :
    codes ≠ [] ∧ ∀ n ∈ codes, isSolid n = true := by
  unfold lookup? at h
  dsimp only at h
  split at h
  · cases h
  · have he := List.all_eq_true.1 (entries_solid _) _ (mem_of_lookup h)
    simp only [Bool.and_eq_true, Bool.not_eq_true', List.isEmpty_eq_false_iff, List.all_eq_true] at he
    exact he

theorem ofNumber_solid (n : UInt32) : isSolid (ofNumber n) = true := by
  unfold ofNumber
  split
  · rename_i h
    have hlo : 0x80 ≤ n.toNat := h.1
    have hhi : n.toNat ≤ 0x9F := h.2
    have hall : ∀ m < 0x20, isSolid (Windows1252.codePoint (0x80 + m)) = true := by decide
    have hm := hall (n.toNat - 0x80) (by omega)
    rwa [Nat.add_sub_cancel' hlo] at hm
  split
  · decide
  · rename_i h
    simp only [not_or, not_and, UInt32.not_lt, UInt32.not_le] at h
    obtain ⟨hz, hs, hm⟩ := h
    have hm' : n.toNat ≤ 0x10FFFF := hm
    have hz' : n.toNat ≠ 0 := fun he => hz (UInt32.toNat_inj.1 he)
    have hs' : 0xD800 ≤ n.toNat → 0xDFFF < n.toNat := hs
    simp only [isSolid, Bool.and_eq_true, bne_iff_ne, decide_eq_true_eq, Nat.isValidChar]
    omega

theorem barePart?_solid {name : Bytes} {codes : List Nat} {used : Nat} :
    ∀ {n : Nat}, barePart? name n = some (codes, used) →
      codes ≠ [] ∧ ∀ c ∈ codes, isSolid c = true := by
  intro n h
  fun_induction barePart? name n with
  | case1 => cases h
  | case2 => cases h
  | case3 n code hl => cases h; exact lookup?_solid hl
  | case4 n _ ih => exact ih h

theorem named?_solid {place : Place} {s : Bytes} {codes : List Nat} {used : Nat}
    (h : named? place s = some (codes, used)) : codes ≠ [] ∧ ∀ c ∈ codes, isSolid c = true := by
  unfold named? at h
  dsimp only at h
  split at h
  · cases h
  split at h
  · rename_i hl
    cases h
    exact lookup?_solid hl
  split at h
  · cases h
  · exact barePart?_solid h

theorem numeric?_solid {s : Bytes} {codes : List Nat} {used : Nat}
    (h : numeric? s = some (codes, used)) : codes ≠ [] ∧ ∀ c ∈ codes, isSolid c = true := by
  have hone : ∀ n : UInt32, [ofNumber n] ≠ [] ∧ ∀ c ∈ [ofNumber n], isSolid c = true := by
    intro n
    refine ⟨List.cons_ne_nil _ _, ?_⟩
    intro c hc
    rw [List.mem_singleton.1 hc]
    exact ofNumber_solid n
  unfold numeric? at h
  dsimp only at h
  split at h
  · cases h
  split at h <;> split at h <;> split at h <;> cases h <;> exact hone _

/-- A reference stands for at least one character, and none of them is U+0000. -/
theorem reference?_solid {place : Place} {s : Bytes} {codes : List Nat} {used : Nat}
    (h : reference? place s = some (codes, used)) :
    codes ≠ [] ∧ ∀ c ∈ codes, isSolid c = true := by
  unfold reference? at h
  split at h
  · cases h
  split at h
  · obtain ⟨⟨codes', used'⟩, hn, he⟩ := Option.map_eq_some_iff.1 h
    cases he
    exact numeric?_solid hn
  · exact named?_solid h

theorem nul_not_mem_flatMap {codes : List Nat} (h : ∀ c ∈ codes, isSolid c = true) :
    Byte.nul ∉ codes.flatMap (Utf8.encode ∘ Char.ofNat) := by
  intro hm
  obtain ⟨n, hn, hz⟩ := List.mem_flatMap.1 hm
  have hs := h n hn
  simp only [isSolid, Bool.and_eq_true, bne_iff_ne, decide_eq_true_eq] at hs
  refine Utf8.nul_not_mem_encode ?_ hz
  rw [Char.ofNat, dif_pos hs.2]
  exact hs.1

theorem nul_not_mem_decodeFrom {place : Place} :
    ∀ {skip : Nat} {s : Bytes}, Byte.nul ∉ s → Byte.nul ∉ decodeFrom place skip s := by
  intro skip s
  fun_induction decodeFrom place skip s with
  | case1 => exact id
  | case2 skip _ rest ih => intro h; exact ih fun hm => h (List.mem_cons_of_mem _ hm)
  | case3 rest codes n hr ih =>
    intro h
    rw [List.mem_append, not_or]
    exact ⟨nul_not_mem_flatMap (reference?_solid hr).2, ih fun hm => h (List.mem_cons_of_mem _ hm)⟩
  | case4 rest _ ih =>
    intro h
    rw [List.mem_cons, not_or] at h ⊢
    exact ⟨h.1, ih h.2⟩
  | case5 c rest _ ih =>
    intro h
    rw [List.mem_cons, not_or] at h ⊢
    exact ⟨h.1, ih h.2⟩

theorem decode_ne_nil {place : Place} {s : Bytes} (h : s ≠ []) : decode place s ≠ [] := by
  cases s with
  | nil => exact absurd rfl h
  | cons c rest =>
    unfold decode decodeFrom
    split
    · split
      · rename_i codes n hr
        obtain ⟨code, more, rfl⟩ := List.exists_cons_of_ne_nil (reference?_solid hr).1
        intro he
        rw [List.flatMap_cons, List.append_assoc] at he
        exact Utf8.encode_ne_nil _ (List.append_eq_nil_iff.1 he).1
      · exact List.cons_ne_nil _ _
    · exact List.cons_ne_nil _ _

/-! ## Texts that are read as one byte -/

/-- A text that is read as one byte wherever it stands. -/
def Spells (place : Place) (written : Bytes) (c : UInt8) : Prop :=
  ∀ s, decodeFrom place 0 (written ++ s) = c :: decodeFrom place 0 s

theorem decodeFrom_append (place : Place) (front s : Bytes) :
    decodeFrom place front.length (front ++ s) = decodeFrom place 0 s := by
  induction front with
  | nil => rfl
  | cons c front ih =>
    rw [List.length_cons, List.cons_append, decodeFrom]
    exact ih

theorem spells_self {place : Place} {c : UInt8} (h : c ≠ Byte.amp) : Spells place [c] c := by
  intro s
  rw [List.singleton_append, decodeFrom, if_neg h]

theorem spells_of_reference {place : Place} {body : Bytes} {c : UInt8} {code : Nat}
    (hr : ∀ s, reference? place (body ++ s) = some ([code], body.length))
    (hc : Utf8.encode (Char.ofNat code) = [c]) : Spells place (Byte.amp :: body) c := by
  intro s
  rw [List.cons_append, decodeFrom, if_pos rfl, hr]
  simp only [List.flatMap_cons, List.flatMap_nil, Function.comp_apply, hc, List.append_nil,
    decodeFrom_append]
  rfl

theorem named?_of_lookup (place : Place) {word : Bytes} {codes : List Nat}
    (hw : ∀ b ∈ word, Byte.isAlphanumeric b = true)
    (hl : lookup? (word ++ [Byte.semicolon]) = some codes) (s : Bytes) :
    named? place (word ++ Byte.semicolon :: s) = some (codes, word.length + 1) := by
  have ht : (word ++ Byte.semicolon :: s).takeWhile Byte.isAlphanumeric = word := by
    rw [List.takeWhile_append_of_pos hw]
    exact List.append_nil word
  unfold named?
  simp only [ht, List.drop_left, List.head?_cons, not_true, false_and, and_false, if_false, if_true,
    hl, List.length_append, List.length_cons, List.length_nil]

theorem spells_named {place : Place} (word : Bytes) {c : UInt8} (code : Nat)
    (hw : ∀ b ∈ word, Byte.isAlphanumeric b = true) (hh : word.head? ≠ some Byte.hash)
    (hl : lookup? (word ++ [Byte.semicolon]) = some [code])
    (hc : Utf8.encode (Char.ofNat code) = [c]) :
    Spells place (Byte.amp :: (word ++ [Byte.semicolon])) c := by
  refine spells_of_reference ?_ hc
  intro s
  have hn := named?_of_lookup place hw hl s
  cases word with
  | nil => cases hl
  | cons w word =>
    have hne : w ≠ Byte.hash := fun he => hh (congrArg some he)
    rw [List.append_assoc, List.singleton_append, List.cons_append, reference?, if_neg hne]
    rw [List.cons_append] at hn
    rw [hn]
    simp only [List.length_append, List.length_cons, List.length_nil]

theorem numeric?_of_digits {digits : Bytes} (hd : ∀ b ∈ digits, Byte.isDigit b = true)
    (hne : digits ≠ []) (s : Bytes) :
    numeric? (digits ++ Byte.semicolon :: s) =
      some ([ofNumber (number 10 digits)], digits.length + 1) := by
  obtain ⟨d, more, rfl⟩ := List.exists_cons_of_ne_nil hne
  have hx : ¬ (d = 0x78 ∨ d = 0x58) := by
    have hdd := hd d List.mem_cons_self
    rintro (rfl | rfl) <;> exact absurd hdd (by decide)
  have ht : (d :: more ++ Byte.semicolon :: s).takeWhile Byte.isDigit = d :: more := by
    rw [List.takeWhile_append_of_pos hd]
    exact List.append_nil _
  unfold numeric?
  rw [if_neg (by simp only [List.length_append, List.length_cons]; omega)]
  simp only [List.cons_append, List.head?_cons, Option.some.injEq, hx, if_false]
  rw [← List.cons_append, ht]
  simp only [List.drop_left, List.head?_cons, if_true]
  rw [if_neg (by simp only [List.length_cons]; omega)]

theorem spells_numeric {place : Place} (digits : Bytes) {c : UInt8}
    (hd : ∀ b ∈ digits, Byte.isDigit b = true) (hne : digits ≠ [])
    (hc : Utf8.encode (Char.ofNat (ofNumber (number 10 digits))) = [c]) :
    Spells place (Byte.amp :: Byte.hash :: (digits ++ [Byte.semicolon])) c := by
  refine spells_of_reference ?_ hc
  intro s
  rw [List.cons_append, reference?, if_pos rfl, List.append_assoc, List.singleton_append,
    numeric?_of_digits hd hne]
  simp only [Option.map_some, List.length_cons, List.length_append, List.length_nil]

theorem lookup?_markup :
    lookup? "amp;" = some [0x26] ∧ lookup? "lt;" = some [0x3C] ∧ lookup? "gt;" = some [0x3E] := by
  decide +kernel

theorem spells_amp (place : Place) : Spells place "&amp;" Byte.amp :=
  spells_named "amp" 0x26 (forall_mem_of_all (by decide)) (by decide) lookup?_markup.1 (by decide)

theorem spells_lt (place : Place) : Spells place "&lt;" Byte.lt :=
  spells_named "lt" 0x3C (forall_mem_of_all (by decide)) (by decide) lookup?_markup.2.1 (by decide)

theorem spells_gt (place : Place) : Spells place "&gt;" Byte.gt :=
  spells_named "gt" 0x3E (forall_mem_of_all (by decide)) (by decide) lookup?_markup.2.2 (by decide)

theorem spells_apostrophe (place : Place) : Spells place "&#39;" Byte.apostrophe :=
  spells_numeric "39" (forall_mem_of_all (by decide)) (by decide) (by decide)

theorem spells_quote (place : Place) : Spells place "&#34;" Byte.quote :=
  spells_numeric "34" (forall_mem_of_all (by decide)) (by decide) (by decide)

theorem spells_cr (place : Place) : Spells place "&#13;" Byte.cr :=
  spells_numeric "13" (forall_mem_of_all (by decide)) (by decide) (by decide)

theorem decode_flatMap {place : Place} {f : UInt8 → Bytes} (h : ∀ c, Spells place (f c) c)
    (s : Bytes) : decode place (s.flatMap f) = s := by
  unfold decode
  induction s with
  | nil => rfl
  | cons c s ih => rw [List.flatMap_cons, h c, ih]

end Entity

open Entity (Spells decode decodeFrom)

/-! ## Line ends and zero bytes -/

theorem normalizeLines_cons (c : UInt8) (s : Bytes) :
    normalizeLines (c :: s) =
      if c = Byte.cr then
        if s.head? = some Byte.lf then normalizeLines s else Byte.lf :: normalizeLines s
      else c :: normalizeLines s := by
  cases s with
  | nil => simp [normalizeLines]
  | cons d s => simp [normalizeLines]

theorem normalizeLines_append {w : Bytes} (h : Byte.cr ∉ w) (s : Bytes) :
    normalizeLines (w ++ s) = w ++ normalizeLines s := by
  induction w with
  | nil => rfl
  | cons c w ih =>
    rw [List.mem_cons, not_or] at h
    rw [List.cons_append, normalizeLines_cons, if_neg (Ne.symm h.1), ih h.2]
    rfl

theorem normalizeLines_of_not_mem {s : Bytes} (h : Byte.cr ∉ s) : normalizeLines s = s := by
  have := normalizeLines_append h []
  simpa [normalizeLines] using this

theorem cr_not_mem_normalizeLines (s : Bytes) : Byte.cr ∉ normalizeLines s := by
  induction s with
  | nil => exact List.not_mem_nil
  | cons c s ih =>
    rw [normalizeLines_cons]
    split
    · split
      · exact ih
      · rw [List.mem_cons, not_or]
        exact ⟨by decide, ih⟩
    · rename_i hc
      rw [List.mem_cons, not_or]
      exact ⟨Ne.symm hc, ih⟩

theorem normalizeLines_ne_nil {s : Bytes} (h : s ≠ []) : normalizeLines s ≠ [] := by
  induction s with
  | nil => exact absurd rfl h
  | cons c s ih =>
    rw [normalizeLines_cons]
    split
    · split
      · rename_i hlf
        refine ih ?_
        rintro rfl
        cases hlf
      · exact List.cons_ne_nil _ _
    · exact List.cons_ne_nil _ _

theorem replaceZeros_of_not_mem {s : Bytes} (h : Byte.nul ∉ s) : replaceZeros s = s := by
  induction s with
  | nil => rfl
  | cons c s ih =>
    rw [List.mem_cons, not_or] at h
    have hs := ih h.2
    unfold replaceZeros at hs ⊢
    rw [List.flatMap_cons, if_neg (Ne.symm h.1), hs]
    rfl

theorem nul_not_mem_replaceZeros (s : Bytes) : Byte.nul ∉ replaceZeros s := by
  intro h
  obtain ⟨c, _, hc⟩ := List.mem_flatMap.1 h
  split at hc
  · exact absurd hc (by decide)
  · rename_i hne
    exact hne (List.mem_singleton.1 hc).symm

theorem cr_not_mem_replaceZeros {s : Bytes} (h : Byte.cr ∉ s) : Byte.cr ∉ replaceZeros s := by
  intro hm
  obtain ⟨c, hcs, hc⟩ := List.mem_flatMap.1 hm
  split at hc
  · exact absurd hc (by decide)
  · rw [List.mem_singleton.1 hc] at h
    exact h hcs

theorem replaceZeros_ne_nil {s : Bytes} (h : s ≠ []) : replaceZeros s ≠ [] := by
  obtain ⟨c, s, rfl⟩ := List.exists_cons_of_ne_nil h
  intro he
  rw [replaceZeros, List.flatMap_cons] at he
  have hc := (List.append_eq_nil_iff.1 he).1
  split at hc
  · exact absurd hc (by decide)
  · cases hc

theorem decodeText_ne_nil {s : Bytes} (h : s ≠ []) : decodeText s ≠ [] :=
  Entity.decode_ne_nil (normalizeLines_ne_nil h)

theorem nul_not_mem_decodeComment (s : Bytes) : Byte.nul ∉ decodeComment s :=
  Entity.nul_not_mem_decodeFrom (nul_not_mem_replaceZeros _)

theorem nul_not_mem_decodeRaw (element : RawElement) (s : Bytes) :
    Byte.nul ∉ decodeRaw element s := by
  unfold decodeRaw
  dsimp only
  split
  · exact Entity.nul_not_mem_decodeFrom (nul_not_mem_replaceZeros _)
  · exact nul_not_mem_replaceZeros _

theorem decodeRaw_ne_nil {element : RawElement} {s : Bytes} (h : s ≠ []) :
    decodeRaw element s ≠ [] := by
  have hz := replaceZeros_ne_nil (normalizeLines_ne_nil h)
  unfold decodeRaw
  dsimp only
  split
  · exact Entity.decode_ne_nil hz
  · exact hz

/-! ## Escaping and decoding -/

theorem escape_cons (c : UInt8) (s : Bytes) : escape (c :: s) = escape [c] ++ escape s := by
  simp [escape]

theorem escape_append (s t : Bytes) : escape (s ++ t) = escape s ++ escape t :=
  List.flatMap_append

theorem spells_escape (place : Entity.Place) (c : UInt8) : Spells place (escape [c]) c := by
  unfold escape
  rw [List.flatMap_cons, List.flatMap_nil, List.append_nil]
  split
  · rename_i h; rw [h]; exact Entity.spells_amp place
  rename_i hamp
  split
  · rename_i h; rw [h]; exact Entity.spells_apostrophe place
  split
  · rename_i h; rw [h]; exact Entity.spells_lt place
  split
  · rename_i h; rw [h]; exact Entity.spells_gt place
  split
  · rename_i h; rw [h]; exact Entity.spells_quote place
  split
  · rename_i h; rw [h]; exact Entity.spells_cr place
  · exact Entity.spells_self hamp

theorem decode_escape (place : Entity.Place) (s : Bytes) : decode place (escape s) = s := by
  have h : escape s = s.flatMap fun c => escape [c] := by simp [escape]
  rw [h]
  exact Entity.decode_flatMap (spells_escape place) s

/-- The bytes of the references that are written. -/
def referenceBytes : Bytes := "&#;13489agltmp"

theorem referenceBytes_plain :
    ∀ b ∈ referenceBytes, b ≠ Byte.lt ∧ b ≠ Byte.gt ∧ b ≠ Byte.quote ∧ b ≠ Byte.cr :=
  forall_mem_of_all (by decide)

/-- A byte of escaped text is one of the text that needs no escape, or one of a reference. -/
theorem mem_escape_cases {b : UInt8} {s : Bytes} (h : b ∈ escape s) :
    b ∈ s ∧ b ≠ Byte.lt ∧ b ≠ Byte.gt ∧ b ≠ Byte.quote ∧ b ≠ Byte.cr ∨ b ∈ referenceBytes := by
  have reference {w : Bytes} (hw : ∀ b ∈ w, b ∈ referenceBytes) (hb : b ∈ w) :
      b ∈ s ∧ b ≠ Byte.lt ∧ b ≠ Byte.gt ∧ b ≠ Byte.quote ∧ b ≠ Byte.cr ∨ b ∈ referenceBytes :=
    .inr (hw b hb)
  obtain ⟨c, hcs, hc⟩ := List.mem_flatMap.1 h
  split at hc
  · exact reference (forall_mem_of_all (by decide)) hc
  split at hc
  · exact reference (forall_mem_of_all (by decide)) hc
  split at hc
  · exact reference (forall_mem_of_all (by decide)) hc
  rename_i hlt
  split at hc
  · exact reference (forall_mem_of_all (by decide)) hc
  rename_i hgt
  split at hc
  · exact reference (forall_mem_of_all (by decide)) hc
  rename_i hquote
  split at hc
  · exact reference (forall_mem_of_all (by decide)) hc
  rename_i hcr
  rw [List.mem_singleton.1 hc]
  exact .inl ⟨hcs, hlt, hgt, hquote, hcr⟩

/-- Escaped text holds neither markup bytes nor quotes nor carriage returns. -/
theorem mem_escape {b : UInt8} {s : Bytes} (h : b ∈ escape s) :
    b ≠ Byte.lt ∧ b ≠ Byte.gt ∧ b ≠ Byte.quote ∧ b ≠ Byte.cr := by
  rcases mem_escape_cases h with hb | hb
  · exact hb.2
  · exact referenceBytes_plain b hb

theorem cr_not_mem_escape (s : Bytes) : Byte.cr ∉ escape s := fun h => (mem_escape h).2.2.2 rfl

theorem decodeText_escape (s : Bytes) : decodeText (escape s) = s := by
  rw [decodeText, normalizeLines_of_not_mem (cr_not_mem_escape s), decode_escape]

theorem decodeValue_escape (s : Bytes) : decodeValue (escape s) = s := by
  rw [decodeValue, normalizeLines_of_not_mem (cr_not_mem_escape s), decode_escape]

theorem nul_not_mem_escape {s : Bytes} (h : Byte.nul ∉ s) : Byte.nul ∉ escape s := by
  intro hm
  rcases mem_escape_cases hm with hb | hb
  · exact h hb.1
  · exact absurd hb (by decide)

/-- Escaped data in a raw element whose references are decoded is read back exactly. -/
theorem decodeRaw_escape {element : RawElement} (he : element.hasReferences = true) {s : Bytes}
    (h : Byte.nul ∉ s) : decodeRaw element (escape s) = s := by
  rw [decodeRaw, normalizeLines_of_not_mem (cr_not_mem_escape s),
    replaceZeros_of_not_mem (nul_not_mem_escape h)]
  simp only [he, if_true, decode_escape]

/-- Data of a raw element that holds no references is its own written form. -/
theorem decodeRaw_literal {element : RawElement} (he : element.hasReferences = false) {s : Bytes}
    (hn : Byte.nul ∉ s) (hc : Byte.cr ∉ s) : decodeRaw element s = s := by
  rw [decodeRaw, normalizeLines_of_not_mem hc, replaceZeros_of_not_mem hn]
  simp only [he, Bool.false_eq_true, if_false]

/-! ## Values of blocks -/

theorem escapeValue_cons (c : UInt8) (s : Bytes) :
    escapeValue (c :: s) = escapeValue [c] ++ escapeValue s := by
  simp [escapeValue]

theorem spells_escapeValue (place : Entity.Place) (c : UInt8) :
    Spells place (escapeValue [c]) c := by
  unfold escapeValue
  rw [List.flatMap_cons, List.flatMap_nil, List.append_nil]
  split
  · rename_i h; rw [h]; exact Entity.spells_amp place
  rename_i hamp
  split
  · rename_i h; rw [h]; exact Entity.spells_apostrophe place
  split
  · rename_i h; rw [h]; exact Entity.spells_lt place
  split
  · rename_i h; rw [h]; exact Entity.spells_gt place
  split
  · rename_i h; rw [h]; exact Entity.spells_quote place
  · exact Entity.spells_self hamp

theorem decode_escapeValue (place : Entity.Place) (s : Bytes) :
    decode place (escapeValue s) = s := by
  have h : escapeValue s = s.flatMap fun c => escapeValue [c] := by simp [escapeValue]
  rw [h]
  exact Entity.decode_flatMap (spells_escapeValue place) s

theorem mem_escapeValue_cases {b : UInt8} {s : Bytes} (h : b ∈ escapeValue s) :
    b ∈ s ∧ b ≠ Byte.lt ∧ b ≠ Byte.gt ∧ b ≠ Byte.quote ∨ b ∈ referenceBytes := by
  have reference {w : Bytes} (hw : ∀ b ∈ w, b ∈ referenceBytes) (hb : b ∈ w) :
      b ∈ s ∧ b ≠ Byte.lt ∧ b ≠ Byte.gt ∧ b ≠ Byte.quote ∨ b ∈ referenceBytes :=
    .inr (hw b hb)
  obtain ⟨c, hcs, hc⟩ := List.mem_flatMap.1 h
  split at hc
  · exact reference (forall_mem_of_all (by decide)) hc
  split at hc
  · exact reference (forall_mem_of_all (by decide)) hc
  split at hc
  · exact reference (forall_mem_of_all (by decide)) hc
  rename_i hlt
  split at hc
  · exact reference (forall_mem_of_all (by decide)) hc
  rename_i hgt
  split at hc
  · exact reference (forall_mem_of_all (by decide)) hc
  rename_i hquote
  rw [List.mem_singleton.1 hc]
  exact .inl ⟨hcs, hlt, hgt, hquote⟩

theorem mem_escapeValue {b : UInt8} {s : Bytes} (h : b ∈ escapeValue s) :
    b ≠ Byte.lt ∧ b ≠ Byte.gt ∧ b ≠ Byte.quote := by
  rcases mem_escapeValue_cases h with hb | hb
  · exact hb.2
  · have := referenceBytes_plain b hb
    exact ⟨this.1, this.2.1, this.2.2.1⟩

/-- A byte is written as itself or as something that begins with an ampersand. -/
theorem escapeValue_singleton (c : UInt8) :
    escapeValue [c] = [c] ∨
      c ≠ Byte.lf ∧ escapeValue [c] = Byte.amp :: (escapeValue [c]).tail := by
  unfold escapeValue
  rw [List.flatMap_cons, List.flatMap_nil, List.append_nil]
  split
  · rename_i h; rw [h]; exact .inr (by decide)
  split
  · rename_i h; rw [h]; exact .inr (by decide)
  split
  · rename_i h; rw [h]; exact .inr (by decide)
  split
  · rename_i h; rw [h]; exact .inr (by decide)
  split
  · rename_i h; rw [h]; exact .inr (by decide)
  · exact .inl rfl

theorem head?_escapeValue (s : Bytes) :
    (escapeValue s).head? = some Byte.lf ↔ s.head? = some Byte.lf := by
  cases s with
  | nil => rfl
  | cons c s =>
    rw [escapeValue_cons]
    rcases escapeValue_singleton c with h | ⟨hne, h⟩
    · rw [h]; rfl
    · rw [h]
      simp only [List.cons_append, List.head?_cons, Option.some.injEq]
      exact ⟨fun he => absurd he (by decide), fun he => absurd he hne⟩

theorem normalizeLines_escapeValue (s : Bytes) :
    normalizeLines (escapeValue s) = escapeValue (normalizeLines s) := by
  induction s with
  | nil => rfl
  | cons c s ih =>
    rw [normalizeLines_cons]
    split
    · rename_i hc
      have hcr : escapeValue (c :: s) = Byte.cr :: escapeValue s := by
        rw [hc, escapeValue_cons]; rfl
      rw [hcr, normalizeLines_cons, if_pos rfl]
      simp only [head?_escapeValue]
      split
      · exact ih
      · rw [ih, escapeValue_cons Byte.lf]; rfl
    · rename_i hc
      have hw : Byte.cr ∉ escapeValue [c] := by
        intro hm
        rcases mem_escapeValue_cases hm with hb | hb
        · exact hc (List.mem_singleton.1 hb.1).symm
        · exact absurd hb (by decide)
      rw [escapeValue_cons, normalizeLines_append hw, ih, escapeValue_cons c (normalizeLines s)]

theorem decodeValue_escapeValue (s : Bytes) :
    decodeValue (escapeValue s) = normalizeLines s := by
  rw [decodeValue, normalizeLines_escapeValue, decode_escapeValue]

/-! ## Comments -/

theorem decode_escapeCommentFrom (mayEnd : Bool) (s : Bytes) :
    decode .text (escapeCommentFrom mayEnd s) = s := by
  unfold decode
  induction s generalizing mayEnd with
  | nil => rfl
  | cons c s ih =>
    unfold escapeCommentFrom
    dsimp only
    split
    · rename_i h; rw [h, Entity.spells_amp .text, ih]
    rename_i hamp
    split
    · rename_i h; rw [h.1, Entity.spells_gt .text, ih]
    · rw [Entity.spells_self hamp, ih]

theorem nul_mem_of_escapeCommentFrom {mayEnd : Bool} {s : Bytes}
    (h : Byte.nul ∈ escapeCommentFrom mayEnd s) : Byte.nul ∈ s := by
  induction s generalizing mayEnd with
  | nil => exact h
  | cons c s ih =>
    unfold escapeCommentFrom at h
    dsimp only at h
    rcases List.mem_append.1 h with hw | hr
    · split at hw
      · exact absurd hw (by decide)
      split at hw
      · exact absurd hw (by decide)
      · rw [List.mem_singleton.1 hw]; exact List.mem_cons_self
    · exact List.mem_cons_of_mem _ (ih hr)

theorem escapeCommentFrom_of_ne {c : UInt8} (ha : c ≠ Byte.amp) (hg : c ≠ Byte.gt) (mayEnd : Bool)
    (s : Bytes) :
    escapeCommentFrom mayEnd (c :: s) =
      c :: escapeCommentFrom (c == Byte.bang || c == Byte.dash) s := by
  rw [escapeCommentFrom]
  rw [if_neg ha, if_neg fun h => hg h.1]
  rfl

theorem head?_escapeCommentFrom (mayEnd : Bool) (s : Bytes) :
    (escapeCommentFrom mayEnd s).head? = some Byte.lf ↔ s.head? = some Byte.lf := by
  cases s with
  | nil => rfl
  | cons c s =>
    by_cases hlf : c = Byte.lf
    · rw [hlf, escapeCommentFrom_of_ne (by decide) (by decide)]
      exact Iff.rfl
    · rw [escapeCommentFrom, List.head?_cons, Option.some.injEq, iff_false_right hlf]
      have hamp : ¬ some Byte.amp = some Byte.lf := by decide
      split
      · exact hamp
      split
      · exact hamp
      · simpa using hlf

/-- Line ends are normalized before comment data is escaped or after. -/
theorem normalizeLines_escapeCommentFrom (mayEnd : Bool) (s : Bytes) :
    normalizeLines (escapeCommentFrom mayEnd s) = escapeCommentFrom mayEnd (normalizeLines s) := by
  induction s generalizing mayEnd with
  | nil => rfl
  | cons c s ih =>
    rw [normalizeLines_cons]
    split
    · rename_i hc
      subst hc
      rw [escapeCommentFrom_of_ne (by decide) (by decide), normalizeLines_cons, if_pos rfl, ih]
      simp only [head?_escapeCommentFrom]
      split
      · rename_i hlf
        obtain ⟨d, s, rfl⟩ := List.exists_cons_of_ne_nil (fun h : s = [] => by simp [h] at hlf)
        cases hlf
        rw [normalizeLines_cons, if_neg (by decide), escapeCommentFrom_of_ne (by decide) (by decide),
          escapeCommentFrom_of_ne (by decide) (by decide)]
      · rw [escapeCommentFrom_of_ne (by decide) (by decide)]
        rfl
    · rename_i hc
      have hw : Byte.cr ∉ (if c = Byte.amp then ("&amp;" : Bytes)
          else if c = Byte.gt ∧ mayEnd then "&gt;" else [c]) := by
        split
        · decide
        split
        · decide
        · simpa using Ne.symm hc
      rw [escapeCommentFrom, escapeCommentFrom]
      rw [normalizeLines_append hw, ih]

theorem mem_normalizeLines {b : UInt8} {s : Bytes} (h : b ∈ normalizeLines s) :
    b = Byte.lf ∨ b ∈ s := by
  induction s with
  | nil => exact .inr h
  | cons c s ih =>
    have more (hb : b ∈ normalizeLines s) : b = Byte.lf ∨ b ∈ c :: s :=
      (ih hb).imp_right (List.mem_cons_of_mem c)
    rw [normalizeLines_cons] at h
    split at h
    · split at h
      · exact more h
      · exact (List.mem_cons.1 h).elim .inl more
    · exact (List.mem_cons.1 h).elim (fun hb => .inr (hb ▸ List.mem_cons_self ..)) more

/-- A comment without zero bytes is read back with its line ends normalized. -/
theorem decodeComment_escapeComment {s : Bytes} (hn : Byte.nul ∉ s) :
    decodeComment (escapeComment s) = normalizeLines s := by
  have hzero : Byte.nul ∉ escapeCommentFrom true (normalizeLines s) := fun h =>
    (mem_normalizeLines (nul_mem_of_escapeCommentFrom h)).elim (by decide) hn
  rw [decodeComment, escapeComment, normalizeLines_escapeCommentFrom, replaceZeros_of_not_mem hzero,
    decode_escapeCommentFrom]

end Markup

end Graft
