import Graft.Proofs.Markup.DocumentOrder

/-!
# Graft.Proofs.Markup.SourceSpelling

The second reader of a tag finds the name and the keys that the token carries, as the source spells
them. Read by positions it never looks outside the text and ends, also on texts that are no tags.

* `ByPosition.keys`, `ByPosition.name`: the readers by positions, where a look outside the text and
  a turn too many give nothing.
* `ByPosition.keys_eq`, `ByPosition.name_eq`: they always give what the readers of tails give.
* `spelling_recovered`: the theorem.
-/

namespace Graft.Markup

/-! ## Readers by positions -/

namespace ByPosition

/-- Passes over the bytes of a class. Each byte takes a turn. -/
def skip (p : UInt8 → Bool) (raw : Bytes) : (turns i : Nat) → Option Nat
  | 0, i => if i < raw.length then none else some i
  | turns + 1, i =>
    if i < raw.length then do
      let c ← raw[i]?
      if p c then skip p raw turns (i + 1) else some i
    else some i

/-- The piece of a text between two positions. -/
def piece? (raw : Bytes) (i j : Nat) : Option Bytes :=
  if i ≤ j ∧ j ≤ raw.length then some ((raw.drop i).take (j - i)) else none

/-- Passes over `=` and a value behind a key. Behind a quote that is not closed this is one position
behind the end. -/
def skipValue (raw : Bytes) (i : Nat) : Option Nat := do
  let i ← skip Byte.isSpace raw raw.length i
  if i < raw.length then do
    let c ← raw[i]?
    if c = Byte.eq then do
      let i ← skip Byte.isSpace raw raw.length (i + 1)
      if i < raw.length then do
        let q ← raw[i]?
        if q = Byte.quote ∨ q = Byte.apostrophe then do
          let j ← skip (· != q) raw raw.length (i + 1)
          some (j + 1)
        else skip isBareByte raw raw.length i
      else skip isBareByte raw raw.length i
    else some i
  else some i

/-- The keys behind a position. Each key takes a turn. -/
def keysFrom (raw : Bytes) : (turns i : Nat) → Option (List Bytes)
  | 0, i => if i < raw.length then none else some []
  | turns + 1, i =>
    if i < raw.length then do
      let i ← skip isFiller raw raw.length i
      if i < raw.length then do
        let c ← raw[i]?
        if c = Byte.gt then some []
        else do
          let j ← skip isKeyByte raw raw.length (i + 1)
          let key ← piece? raw i j
          let behind ← skipValue raw j
          let more ← keysFrom raw turns behind
          some (key :: more)
      else some []
    else some []

def keys (raw : Bytes) : Option (List Bytes) := do
  let i ← skip isNameByte raw raw.length 1
  keysFrom raw raw.length i

/-- Where the name of a tag starts. -/
def nameStart (raw : Bytes) : Option Nat :=
  if 1 < raw.length then do
    let c ← raw[1]?
    some (if c = Byte.slash then 2 else 1)
  else some 1

/-- The name of a tag as written, given its lower-case form. -/
def name (raw lowered : Bytes) : Option Bytes := do
  let i ← nameStart raw
  if i + lowered.length ≤ raw.length then do
    let written ← piece? raw i (i + lowered.length)
    some (if Fold.alike written lowered then written else lowered)
  else some lowered

/-- From one position to another one over the bytes of a class. -/
structure Skips (p : UInt8 → Bool) (raw : Bytes) (i j : Nat) : Prop where
  le : i ≤ j
  le_max : j ≤ max i raw.length
  rest : raw.drop j = (raw.drop i).dropWhile p
  passed : (raw.drop i).take (j - i) = (raw.drop i).takeWhile p

section

variable {p : UInt8 → Bool} {raw : Bytes} {turns i : Nat}

theorem Skips.refl (h : (raw.drop i).takeWhile p = []) : Skips p raw i i := by
  refine ⟨Nat.le_refl i, Nat.le_max_left _ _, ?_, by simp [h]⟩
  conv_lhs => rw [← List.takeWhile_append_dropWhile (l := raw.drop i) (p := p), h, List.nil_append]

theorem Skips.step (hi : i < raw.length) (hp : p raw[i] = true) {j : Nat}
    (h : Skips p raw (i + 1) j) : Skips p raw i j := by
  have hdrop := List.drop_eq_getElem_cons hi
  have hle := h.le
  have hmax := h.le_max
  refine ⟨by omega, by omega, ?_, ?_⟩
  · rw [h.rest, hdrop, List.dropWhile_cons_of_pos hp]
  · have hsub : j - i = j - (i + 1) + 1 := by omega
    rw [hdrop, List.takeWhile_cons_of_pos hp, hsub, List.take_succ_cons, h.passed]

theorem drop_of_not_lt (hi : ¬ i < raw.length) : raw.drop i = [] :=
  List.drop_eq_nil_of_le (Nat.not_lt.1 hi)

theorem exists_skip_of_le (h : raw.length ≤ i + turns) :
    ∃ j, skip p raw turns i = some j ∧ Skips p raw i j := by
  induction turns generalizing i with
  | zero =>
    have hi : ¬ i < raw.length := by omega
    exact ⟨i, by rw [skip, if_neg hi], .refl (by simp [drop_of_not_lt hi])⟩
  | succ turns ih =>
    by_cases hi : i < raw.length
    · rw [skip, if_pos hi, List.getElem?_eq_getElem hi]
      by_cases hp : p raw[i] = true
      · obtain ⟨j, hj, hskips⟩ := @ih (i + 1) (by omega)
        exact ⟨j, by simp [hp, hj], hskips.step hi hp⟩
      · refine ⟨i, by simp [hp], .refl ?_⟩
        rw [List.drop_eq_getElem_cons hi, List.takeWhile_cons_of_neg hp]
    · exact ⟨i, by rw [skip, if_neg hi], .refl (by simp [drop_of_not_lt hi])⟩

theorem exists_skip (p : UInt8 → Bool) (raw : Bytes) (i : Nat) :
    ∃ j, skip p raw raw.length i = some j ∧ Skips p raw i j :=
  exists_skip_of_le (Nat.le_add_left raw.length i)

theorem piece?_eq {j : Nat} (h : Skips p raw (i + 1) j) (hi : i < raw.length) :
    piece? raw i j = some (raw[i] :: (raw.drop (i + 1)).takeWhile p) := by
  have hle := h.le
  have hmax := h.le_max
  have hsub : j - i = j - (i + 1) + 1 := by omega
  rw [piece?, if_pos ⟨by omega, by omega⟩, List.drop_eq_getElem_cons hi, hsub, List.take_succ_cons,
    h.passed]

theorem exists_skipValue (raw : Bytes) (i : Nat) :
    ∃ j, skipValue raw i = some j ∧ i ≤ j ∧ raw.drop j = Markup.skipValue (raw.drop i) := by
  obtain ⟨a, ha, hspace⟩ := exists_skip Byte.isSpace raw i
  have hia := hspace.le
  simp only [skipValue, ha, Option.bind_eq_bind, Option.bind_some, Markup.skipValue, ← hspace.rest]
  by_cases hlt : a < raw.length
  · rw [if_pos hlt, List.getElem?_eq_getElem hlt, List.drop_eq_getElem_cons hlt]
    simp only [Option.bind_some]
    by_cases heq : raw[a] = Byte.eq
    · rw [if_pos heq, if_pos heq]
      obtain ⟨b, hb, hspace'⟩ := exists_skip Byte.isSpace raw (a + 1)
      have hab := hspace'.le
      simp only [hb, Option.bind_some, ← hspace'.rest]
      by_cases hlt' : b < raw.length
      · rw [if_pos hlt', List.getElem?_eq_getElem hlt', List.drop_eq_getElem_cons hlt']
        simp only [Option.bind_some]
        by_cases hquote : raw[b] = Byte.quote ∨ raw[b] = Byte.apostrophe
        · obtain ⟨c, hc, hquoted⟩ :=
            exists_skip (· != raw[b]) raw (b + 1)
          have hbc := hquoted.le
          rw [if_pos hquote, if_pos hquote, hc, Option.bind_some]
          exact ⟨c + 1, rfl, by omega, by rw [← hquoted.rest, List.drop_drop]⟩
        · obtain ⟨c, hc, hbare⟩ := exists_skip isBareByte raw b
          have hbc := hbare.le
          rw [if_neg hquote, if_neg hquote, hc]
          exact ⟨c, rfl, by omega, by rw [hbare.rest, List.drop_eq_getElem_cons hlt']⟩
      · obtain ⟨c, hc, hbare⟩ := exists_skip isBareByte raw b
        have hbc := hbare.le
        rw [if_neg hlt', hc, drop_of_not_lt hlt']
        exact ⟨c, rfl, by omega, by rw [hbare.rest, drop_of_not_lt hlt', List.dropWhile_nil]⟩
    · rw [if_neg heq, if_neg heq]
      exact ⟨a, rfl, hia, List.drop_eq_getElem_cons hlt⟩
  · rw [if_neg hlt, drop_of_not_lt hlt]
    exact ⟨a, rfl, hia, drop_of_not_lt hlt⟩

theorem keysFrom_eq (h : raw.length ≤ i + turns) :
    keysFrom raw turns i = some (Markup.keysFrom (raw.drop i)) := by
  induction turns generalizing i with
  | zero =>
    have hi : ¬ i < raw.length := by omega
    rw [keysFrom, if_neg hi, drop_of_not_lt hi, keysFrom_of_nil rfl]
  | succ turns ih =>
    rw [keysFrom]
    by_cases hi : i < raw.length
    · obtain ⟨a, ha, hfiller⟩ := exists_skip isFiller raw i
      have hia := hfiller.le
      simp only [if_pos hi, ha, Option.bind_eq_bind, Option.bind_some]
      by_cases hlt : a < raw.length
      · have hstart : (raw.drop i).dropWhile isFiller = raw[a] :: raw.drop (a + 1) := by
          rw [← hfiller.rest, List.drop_eq_getElem_cons hlt]
        rw [if_pos hlt, List.getElem?_eq_getElem hlt, Option.bind_some, keysFrom_of_cons hstart]
        by_cases hgt : raw[a] = Byte.gt
        · rw [if_pos hgt, if_pos hgt]
        · obtain ⟨b, hb, hkey⟩ :=
            exists_skip isKeyByte raw (a + 1)
          have hab := hkey.le
          obtain ⟨c, hc, hbc, hvalue⟩ := exists_skipValue raw b
          rw [if_neg hgt, if_neg hgt, hb, Option.bind_some, piece?_eq hkey hlt, Option.bind_some,
            hc, Option.bind_some, ih (by omega), Option.bind_some, hvalue, hkey.rest]
      · rw [if_neg hlt, keysFrom_of_nil (by rw [← hfiller.rest, drop_of_not_lt hlt])]
    · rw [if_neg hi, drop_of_not_lt hi, keysFrom_of_nil rfl]

theorem keys_eq (raw : Bytes) : keys raw = some (spelledKeys raw) := by
  obtain ⟨i, hi, hname⟩ := exists_skip isNameByte raw 1
  simp only [keys, hi, Option.bind_eq_bind, Option.bind_some]
  rw [keysFrom_eq (Nat.le_add_left raw.length i), hname.rest, spelledKeys]

theorem exists_nameStart (raw : Bytes) :
    ∃ i, nameStart raw = some i ∧ raw.drop i = tagBody raw := by
  rw [nameStart, tagBody]
  by_cases h : 1 < raw.length
  · rw [if_pos h, List.getElem?_eq_getElem h, List.drop_eq_getElem_cons h]
    refine ⟨if raw[1] = Byte.slash then 2 else 1, rfl, ?_⟩
    rw [List.head?_cons, List.drop_succ_cons, List.drop_zero]
    by_cases hslash : raw[1] = Byte.slash
    · rw [if_pos hslash, if_pos (congrArg some hslash)]
    · rw [if_neg hslash, if_neg (mt Option.some.inj hslash), List.drop_eq_getElem_cons h]
  · rw [if_neg h]
    exact ⟨1, rfl, by simp [drop_of_not_lt h]⟩

theorem name_eq (raw lowered : Bytes) : name raw lowered = some (spelledName raw lowered) := by
  obtain ⟨i, hi, hbody⟩ := exists_nameStart raw
  simp only [name, hi, Option.bind_eq_bind, Option.bind_some, spelledName, ← hbody]
  by_cases hfits : i + lowered.length ≤ raw.length
  · have hlen : ((raw.drop i).take lowered.length).length = lowered.length := by
      rw [List.length_take, List.length_drop]
      omega
    have hpiece : piece? raw i (i + lowered.length) = some ((raw.drop i).take lowered.length) := by
      rw [piece?, if_pos ⟨by omega, hfits⟩, Nat.add_sub_cancel_left]
    rw [if_pos hfits, hpiece, Option.bind_some]
    simp only [hlen, true_and]
  · rw [if_neg hfits]
    split
    · rename_i hsame
      rw [List.length_take, List.length_drop] at hsame
      have hnil : lowered = [] := List.length_eq_zero_iff.1 (by omega)
      simp [hnil]
    · rfl

end

end ByPosition

/-! ## Tags -/

theorem lower_keys (written : List (Bytes × Bytes)) :
    (written.map Prod.fst).map Bytes.lower = (decodeAttrs written).map Attr.key := by
  simp [decodeAttrs]

theorem OpenTag.written {t : Token} {name : Bytes} {attrs : List (Bytes × Bytes)}
    (h : OpenTag t name attrs) : readTag? (t.raw.drop 1) = some (name, attrs, []) := by
  obtain ⟨body, hraw, hr⟩ := h.raw
  rw [hraw, List.drop_succ_cons, List.drop_zero, hr]

theorem exists_openTag {mode : Mode} {s rest : Bytes} {t : Token} (h : scan mode s = .token t rest)
    {lowered : Bytes} {attrs : List Attr}
    (hk : t.kind = .startTag lowered attrs ∨ t.kind = .selfClosing lowered attrs) :
    ∃ name written,
      OpenTag t name written ∧ lowered = name.lower ∧ attrs = decodeAttrs written := by
  rw [← scan_append h] at h
  cases isRead_of_scan h with
  | text hkind | comment hkind | doctype hkind => simp [hkind] at hk
  | closeTag ht => simp [ht.kind] at hk
  | openTag ht =>
    refine ⟨_, _, ht, ?_⟩
    have hkind := ht.kind
    split at hkind <;> rw [hkind] at hk <;> simpa [eq_comm] using hk

theorem exists_closeTag {mode : Mode} {s rest : Bytes} {t : Token} (h : scan mode s = .token t rest)
    {lowered : Bytes} (hk : t.kind = .endTag lowered) :
    ∃ name, CloseTag t name ∧ lowered = name.lower := by
  rw [← scan_append h] at h
  cases isRead_of_scan h with
  | text hkind | comment hkind | doctype hkind => simp [hkind] at hk
  | openTag ht =>
    have hkind := ht.kind
    split at hkind <;> simp [hkind] at hk
  | closeTag ht => exact ⟨_, ht, by simpa [ht.kind, eq_comm] using hk⟩

/-- For every tag that is read, whatever the source and the mode, the second reader of its slice
finds one key for each attribute, in order, each of them the attribute's key but for the case of
`A`–`Z`; the attributes get exactly these keys and keep their values, and the name is found as
written. Read by positions, no text makes the second readers look outside it or run on. -/
theorem spelling_recovered :
    (∀ mode s t rest, scan mode s = .token t rest →
      (∀ lowered attrs, t.kind = .startTag lowered attrs ∨ t.kind = .selfClosing lowered attrs →
        ∃ written, readTag? (t.raw.drop 1) = some (spelledName t.raw lowered, written, []) ∧
          (spelledName t.raw lowered).lower = lowered ∧ decodeAttrs written = attrs ∧
          spelledKeys t.raw = written.map Prod.fst ∧
          (spelledKeys t.raw).map Bytes.lower = attrs.map Attr.key ∧
          spelledAttrs t.raw attrs =
            List.zipWith (fun key attr => ⟨key, attr.val⟩) (spelledKeys t.raw) attrs) ∧
      ∀ lowered, t.kind = .endTag lowered →
        ∃ written, readTag? (t.raw.drop 2) = some (spelledName t.raw lowered, written, []) ∧
          (spelledName t.raw lowered).lower = lowered) ∧
    ∀ raw, ByPosition.keys raw = some (spelledKeys raw) ∧
      ∀ lowered, ByPosition.name raw lowered = some (spelledName raw lowered) := by
  refine ⟨fun mode s t rest h => ⟨?_, ?_⟩,
    fun raw => ⟨ByPosition.keys_eq raw, ByPosition.name_eq raw⟩⟩
  · intro lowered attrs hk
    obtain ⟨name, written, ht, rfl, rfl⟩ := exists_openTag h hk
    rw [ht.spelledName, ht.spelledKeys, ht.spelledAttrs]
    refine ⟨written, ht.written, rfl, rfl, rfl, lower_keys written, ?_⟩
    simp [decodeAttrs, List.zipWith_map, List.zipWith_self]
  · intro lowered hk
    obtain ⟨name, ht, rfl⟩ := exists_closeTag h hk
    obtain ⟨body, written, hraw, hr⟩ := ht.raw
    rw [ht.spelledName]
    exact ⟨written, by rw [hraw]; exact hr, rfl⟩

/-- A `>` between quotes, a value that begins with `=`, and a key that does. -/
def boundTag : Bytes := "<Card :Key='>' @c==d/e / =F/ gH>"

def boundAttrs : List Attr := [⟨":key", ">"⟩, ⟨"@c", "=d/e"⟩, ⟨"=f", []⟩, ⟨"gh", []⟩]

theorem spelling_recovered_bound :
    scan .markup (boundTag ++ "x") = .token ⟨boundTag, .startTag "card" boundAttrs⟩ "x" ∧
      (spelledKeys boundTag).map Bytes.lower = boundAttrs.map Attr.key ∧
      spelledAttrs boundTag boundAttrs =
        List.zipWith (fun key attr => ⟨key, attr.val⟩) (spelledKeys boundTag) boundAttrs ∧
      ByPosition.keys "<a B='" = some (spelledKeys "<a B='") := by
  have hscan : scan .markup (boundTag ++ "x") =
      .token ⟨boundTag, .startTag "card" boundAttrs⟩ "x" := by
    have hmarkup : markup? (boundTag ++ "x") =
        some (.startTag (Bytes.ofString "card") boundAttrs, Bytes.ofString "x") := by
      decide +kernel
    exact scanMarkup_of_markup? (by decide +kernel) hmarkup
  obtain ⟨written, _, _, _, _, hkeys, hattrs⟩ :=
    (spelling_recovered.1 .markup _ _ _ hscan).1 "card" boundAttrs (.inl rfl)
  exact ⟨hscan, hkeys, hattrs, (spelling_recovered.2 "<a B='").1⟩

end Graft.Markup
