import Graft.Proofs.Component.WrittenBlock
import Graft.Proofs.Text.Case
import Mathlib.Control.Monad.Basic
import Mathlib.Data.List.Chain
import Mathlib.Data.List.Induction

/-!
# Graft.Proofs.Component.RoundTrip

Writing a component undoes reading it. The blocks of a source have names and keys that can be
written and contents that end where they should; only line ends in values change, and top-level
blocks of type `extension` are left out.

* `SoundBlock`: blocks as they are read.
* `soundBlock_of_parse`: the blocks of a source, padded or not.
* `Block.normalized`: a block with the line ends of its values normalized.
* `readAttrs?_writeAttrs`: attributes without a key that begins with `=` behind a bare one.
-/

namespace Graft

open Markup

/-! ## Repeated keys -/

/-- Attributes with different keys. -/
abbrev DistinctKeys (attrs : List Attr) : Prop := attrs.Pairwise fun a b => a.key ≠ b.key

namespace Attrs

theorem has_iff {key : Bytes} {attrs : List Attr} :
    has key attrs = true ↔ ∃ a ∈ attrs, a.key = key := by
  simp [has, Attr.find?]

theorem not_has {key : Bytes} {attrs : List Attr} :
    has key attrs = false ↔ ∀ a ∈ attrs, a.key ≠ key := by
  rw [← Bool.not_eq_true, has_iff]
  simp

/-- The last attribute is kept unless its key is one of those kept. -/
theorem distinct_concat_cases (attrs : List Attr) (a : Attr) :
    distinct (attrs ++ [a]) =
      if has a.key (distinct attrs) then distinct attrs else distinct attrs ++ [a] := by
  rw [distinct, List.foldl_append]
  rfl

theorem find?_concat (key : Bytes) (attrs : List Attr) (a : Attr) :
    Attr.find? key (attrs ++ [a]) =
      (Attr.find? key attrs).or (if a.key = key then some a.val else none) := by
  simp only [Attr.find?, List.find?_append, List.find?_singleton, beq_iff_eq]
  cases attrs.find? (fun a => a.key == key) with
  | some found => rfl
  | none => simp only [Option.none_or]; split <;> rfl

/-- The first occurrence of a key wins. -/
@[simp] theorem find?_distinct (key : Bytes) (attrs : List Attr) :
    Attr.find? key (distinct attrs) = Attr.find? key attrs := by
  induction attrs using List.reverseRecOn with
  | nil => rfl
  | append_singleton attrs a ih =>
    rw [distinct_concat_cases, find?_concat, ← ih]
    split
    · rename_i hkept
      by_cases ha : a.key = key
      · obtain ⟨val, hval⟩ := Option.isSome_iff_exists.1 (ha ▸ hkept)
        rw [hval, Option.some_or]
      · rw [if_neg ha, Option.or_none]
    · rw [find?_concat]

/-- An attribute is kept exactly if its key does not stand before it. -/
theorem distinct_concat (attrs : List Attr) (a : Attr) :
    distinct (attrs ++ [a]) = if has a.key attrs then distinct attrs else distinct attrs ++ [a] := by
  rw [distinct_concat_cases, has, find?_distinct, has]

theorem distinct_sublist (attrs : List Attr) : (distinct attrs).Sublist attrs := by
  induction attrs using List.reverseRecOn with
  | nil => exact .slnil
  | append_singleton attrs a ih =>
    rw [distinct_concat]
    split
    · exact ih.trans (List.sublist_append_left ..)
    · exact ih.append_right [a]

theorem distinctKeys_concat {attrs : List Attr} {a : Attr} :
    DistinctKeys (attrs ++ [a]) ↔ DistinctKeys attrs ∧ has a.key attrs = false := by
  rw [not_has, DistinctKeys, List.pairwise_append]
  simp

theorem distinctKeys_distinct (attrs : List Attr) : DistinctKeys (distinct attrs) := by
  induction attrs using List.reverseRecOn with
  | nil => exact .nil
  | append_singleton attrs a ih =>
    rw [distinct_concat]
    split
    · exact ih
    · rename_i ha
      refine distinctKeys_concat.2 ⟨ih, ?_⟩
      rw [has, find?_distinct, ← has]
      simpa using ha

theorem distinct_of_distinctKeys {attrs : List Attr} (h : DistinctKeys attrs) :
    distinct attrs = attrs := by
  induction attrs using List.reverseRecOn with
  | nil => rfl
  | append_singleton attrs a ih =>
    obtain ⟨hattrs, ha⟩ := distinctKeys_concat.1 h
    rw [distinct_concat, ha, if_neg Bool.false_ne_true, ih hattrs]

/-- Among different keys a value is found exactly if it is written there. -/
theorem find?_eq_some_iff {key val : Bytes} {attrs : List Attr} (h : DistinctKeys attrs) :
    Attr.find? key attrs = some val ↔ ⟨key, val⟩ ∈ attrs := by
  induction attrs with
  | nil => simp [Attr.find?]
  | cons a attrs ih =>
    obtain ⟨hfirst, hrest⟩ := List.pairwise_cons.1 h
    obtain ⟨k, v⟩ := a
    by_cases ha : k = key
    · have hnone : ⟨key, val⟩ ∉ attrs := fun hmem => hfirst _ hmem ha
      simp [Attr.find?, ha, hnone, eq_comm]
    · have hskip : Attr.find? key (⟨k, v⟩ :: attrs) = Attr.find? key attrs := by
        simp [Attr.find?, ha]
      simp [hskip, ih hrest, Ne.symm ha]

end Attrs

/-! ## The blocks of a source -/

/-- Blocks as they are read. -/
structure SoundBlock (b : Block) : Prop where
  isName : IsTagName b.type
  isKey : ∀ a ∈ b.attrs, IsKey a.key
  distinct : DistinctKeys b.attrs
  enclosed : Enclosed b.type b.content

theorem soundBlock_of_openTag {t : Token} {name content : Bytes} {pairs : List (Bytes × Bytes)}
    (h : OpenTag t name pairs) (he : Enclosed name content) :
    SoundBlock ⟨tagName t, tagAttrs t, content⟩ := by
  rw [h.tagName, h.tagAttrs]
  refine ⟨h.isName, fun a ha => ?_, Attrs.distinctKeys_distinct _, he⟩
  obtain ⟨b, hb, rfl⟩ := List.mem_map.1 ((Attrs.distinct_sublist _).subset ha)
  exact h.isKey b hb

theorem lt_not_mem_padding (pad : Padding) (type : Bytes) (attrs : List Attr) (feeds : Nat) :
    Byte.lt ∉ padding pad type attrs feeds := by
  have hfiller : Byte.lt ∉ filler type attrs := by
    unfold filler
    split <;> decide
  unfold padding
  split
  · exact List.not_mem_nil
  split
  · exact List.not_mem_nil
  · intro hm
    obtain ⟨line, hline, hlt⟩ := List.mem_flatten.1 hm
    rw [List.eq_of_mem_replicate hline] at hlt
    exact hfiller hlt

theorem exists_of_mem_blocksFrom {pad : Padding} {feeds : Nat} {parts : List Part} {b : Block}
    (h : b ∈ blocksFrom pad feeds parts) :
    ∃ part ∈ parts, ∃ n, part.padded? pad n = some b := by
  induction parts generalizing feeds with
  | nil => cases h
  | cons part parts ih =>
    rw [blocksFrom, List.mem_append] at h
    rcases h with h | h
    · exact ⟨part, List.mem_cons_self .., feeds, Option.mem_toList.1 h⟩
    · obtain ⟨part', hp, n, hn⟩ := ih h
      exact ⟨part', List.mem_cons_of_mem _ hp, n, hn⟩

theorem soundBlock_of_part {pad : Padding} {part : Part} {n : Nat} {b : Block} {s s' : Bytes}
    (hw : part.WellFormed) (h : Steps .markup s part.tokens .markup s')
    (hb : part.padded? pad n = some b) (hp : b.type ≠ plaintextName) : SoundBlock b := by
  cases part with
  | gap t => cases hb
  | single t =>
    cases hb
    obtain ⟨lowered, attrs, hk⟩ := hw
    obtain ⟨name, pairs, hopen⟩ := selfClosing_of_kind h.cases_cons.1 hk
    refine soundBlock_of_openTag hopen (enclosed_nil hopen.isName ?_)
    rwa [← hopen.tagName]
  | pair start inner stop =>
    cases hb
    obtain ⟨name, ⟨run⟩⟩ := exists_pairRun hw h
    exact soundBlock_of_openTag run.openTag
      (run.enclosed.pad run.openTag.isName (lt_not_mem_padding _ _ _ _))

/-- The template and the blocks beside it. -/
def Component.blocks (c : Component) : List Block :=
  c.template :: (c.auxiliary.custom ++ c.auxiliary.script.toList ++ c.auxiliary.styles)

theorem Distributed.mem {blocks : List Block} {c : Component} (h : Distributed blocks c) {b : Block}
    (hb : b ∈ c.blocks) : b ∈ blocks := by
  simp only [Component.blocks, List.mem_cons, List.mem_append, ← h.custom, ← h.script,
    ← h.styles] at hb
  rcases hb with rfl | (hb | hb) | hb
  · have hmem := List.mem_singleton_self c.template
    rw [← h.template] at hmem
    exact (List.mem_filter.1 hmem).1
  · exact (List.mem_filter.1 hb).1
  · exact (List.mem_filter.1 hb).1
  · exact (List.mem_filter.1 hb).1

theorem soundBlock_of_parse {pad : Padding} {source : Bytes} {c : Component}
    (h : Component.parse pad source = .ok c) {b : Block} (hb : b ∈ c.blocks)
    (hp : b.type ≠ plaintextName) : SoundBlock b := by
  obtain ⟨parts, hparts, hdist, _⟩ := parse_ok_iff.1 h
  obtain ⟨part, hpart, n, hn⟩ := exists_of_mem_blocksFrom (hdist.mem hb)
  obtain ⟨s, s', hsteps⟩ := hparts.exists_steps hpart
  exact soundBlock_of_part (hparts.wellFormed part hpart) hsteps hn hp

theorem Distributed.placed {blocks : List Block} {c : Component} (h : Distributed blocks c) :
    c.template.type = BlockType.template ∧ Placed c.auxiliary := by
  have hfilter {type : Bytes} {b : Block} (hb : b ∈ ofType type blocks) : b.type = type := by
    simpa using (List.mem_filter.1 hb).2
  refine ⟨hfilter (by rw [h.template]; exact List.mem_singleton_self _), ⟨?_, ?_, ?_⟩⟩
  · intro b hb
    exact hfilter (by rw [h.script]; exact Option.mem_toList.2 hb)
  · intro b hb
    exact hfilter (by rw [h.styles]; exact hb)
  · intro b hb
    rw [← h.custom] at hb
    have := (List.mem_filter.1 hb).2
    simp only [Bool.and_eq_true, bne_iff_ne, ne_eq] at this
    exact ⟨this.1.1, this.1.2, this.2⟩

theorem Block.extends?_eq_none_iff {b : Block} :
    b.extends? = none ↔ ∀ a ∈ b.attrs, a.key ≠ "extends" := by
  rw [← Attrs.not_has, Attrs.has, Option.isSome_eq_false_iff, Option.isNone_iff_eq_none]
  rfl

/-- What a template extends is the value of the one attribute of that key. -/
theorem extends?_eq_some_iff {pad : Padding} {source target : Bytes} {c : Component}
    (h : Component.parse pad source = .ok c) :
    c.template.extends? = some target ↔ ⟨"extends", target⟩ ∈ c.template.attrs := by
  obtain ⟨parts, _, hdist, _⟩ := parse_ok_iff.1 h
  have hname : c.template.type ≠ plaintextName := by
    rw [hdist.placed.1]
    decide
  have hsound := soundBlock_of_parse h (List.mem_cons_self ..) hname
  exact Attrs.find?_eq_some_iff hsound.distinct

/-! ## Keys that do not begin with an equals sign -/

/-- What may stand behind a key without value: it ends the key, and is no value. -/
def EndsKey (s : Bytes) : Prop :=
  ∃ d more c rest, s = d :: more ∧ isKeyByte d = false ∧
    s.dropWhile Byte.isSpace = c :: rest ∧ c ≠ Byte.slash ∧ c ≠ Byte.eq

theorem readAttrs?_bare {key s : Bytes} (hk : IsKey key) (hs : EndsKey s) :
    readAttrs? (Byte.space :: (key ++ s)) =
      (readAttrs? s).map fun (attrs, last) => ((key, []) :: attrs, last) := by
  obtain ⟨d, more, c, rest, rfl, hd, hdrop, hslash, heq⟩ := hs
  have hvalue : readValue? (d :: more) = some ([], c :: rest) :=
    readValue?_iff.2 (.missing hdrop hslash heq)
  rw [readAttrs?_key hk _ hd, hvalue]
  dsimp only
  rw [← hdrop, readAttrs?_dropWhile]

/-- Attributes as they stand in a written block. -/
def blockPairs (attrs : List Attr) : List (Bytes × Bytes) :=
  attrs.map fun a => (a.key, escapeValue a.val)

theorem quote_not_mem_escapeValue (s : Bytes) : Byte.quote ∉ escapeValue s :=
  fun h => (mem_escapeValue h).2.2 rfl

/-- A written attribute is read back in front of anything, one without value in front of what ends
its key. -/
theorem readAttrs?_writeAttr {a : Attr} (hk : IsKey a.key) {s : Bytes}
    (hs : a.val = [] → EndsKey s) :
    readAttrs? (writeAttr a ++ s) =
      (readAttrs? s).map fun (attrs, last) => ((a.key, escapeValue a.val) :: attrs, last) := by
  rw [writeAttr]
  split
  · rename_i hval
    rw [List.append_nil, List.cons_append, readAttrs?_bare hk (hs hval), hval]
    rfl
  · simpa only [List.cons_append, List.append_assoc, List.nil_append] using
      readAttrs?_quoted hk (quote_not_mem_escapeValue a.val) s

theorem endsKey_gt (s : Bytes) : EndsKey (Byte.gt :: s) :=
  ⟨_, _, _, _, rfl, by decide, List.dropWhile_cons_of_neg (by decide), by decide, by decide⟩

/-- Another key ends a key, if it does not begin with `=`. -/
theorem endsKey_writeAttr {a : Attr} (hk : IsKey a.key) (he : a.key.head? ≠ some Byte.eq)
    (s : Bytes) : EndsKey (writeAttr a ++ s) := by
  rw [writeAttr]
  cases hkey : a.key with
  | nil =>
    rw [hkey] at hk
    cases hk
  | cons c key =>
    rw [hkey] at hk he
    have hc := hk.1
    simp only [isNameByte, Bool.not_eq_true', Bool.or_eq_false_iff, beq_eq_false_iff_ne] at hc
    obtain ⟨⟨hspace, hslash⟩, _⟩ := hc
    have heq : c ≠ Byte.eq := fun h => he (by rw [h]; rfl)
    have hdrop (t : Bytes) : (Byte.space :: c :: t).dropWhile Byte.isSpace = c :: t := by
      rw [List.dropWhile_cons_of_pos (by decide), List.dropWhile_cons_of_neg (by simp [hspace])]
    exact ⟨Byte.space, _, c, _, rfl, by decide, hdrop _, hslash, heq⟩

/-- No key that begins with `=` stands behind one without value. -/
def KeysApart (attrs : List Attr) : Prop :=
  attrs.IsChain fun a next => a.val = [] → next.key.head? ≠ some Byte.eq

theorem readAttrs?_writeAttrs {attrs : List Attr} (hk : ∀ a ∈ attrs, IsKey a.key)
    (ha : KeysApart attrs) (s : Bytes) :
    readAttrs? (writeAttrs attrs ++ Byte.gt :: s) = some (blockPairs attrs, s) := by
  induction attrs with
  | nil => exact readAttrs?_extend _ readAttrs?_gt s
  | cons a attrs ih =>
    rw [List.forall_mem_cons] at hk
    obtain ⟨hnext, hrest⟩ := List.isChain_cons.1 ha
    rw [writeAttrs_cons, List.append_assoc, readAttrs?_writeAttr hk.1, ih hk.2 hrest]
    · rfl
    · intro hval
      cases attrs with
      | nil => exact endsKey_gt s
      | cons next attrs =>
        rw [writeAttrs_cons, List.append_assoc]
        exact endsKey_writeAttr (hk.2 next (List.mem_cons_self ..)) (hnext next rfl hval) _

theorem keysApart_of_keys {attrs : List Attr} (he : ∀ a ∈ attrs, a.key.head? ≠ some Byte.eq) :
    KeysApart attrs := by
  have hpairs : attrs.Pairwise fun a next => a.val = [] → next.key.head? ≠ some Byte.eq :=
    List.pairwise_of_forall_mem_list fun _ _ next hnext _ => he next hnext
  exact hpairs.isChain

/-- Attributes with the line ends of their values normalized. -/
def normalizedAttrs (attrs : List Attr) : List Attr :=
  attrs.map fun a => { a with val := normalizeLines a.val }

theorem decode_blockPairs (attrs : List Attr) :
    (blockPairs attrs).map (fun a => (⟨a.1, decodeValue a.2⟩ : Attr)) = normalizedAttrs attrs := by
  simp only [blockPairs, normalizedAttrs, List.map_map]
  refine List.map_congr_left fun a _ => ?_
  simp only [Function.comp_apply, decodeValue_escapeValue]

/-- A block with the line ends of its values normalized. -/
def Block.normalized (b : Block) : Block := { b with attrs := normalizedAttrs b.attrs }

theorem closesItself_of_keys {attrs : List Attr} (hk : ∀ a ∈ attrs, IsKey a.key)
    (he : ∀ a ∈ attrs, a.key.head? ≠ some Byte.eq) : ClosesItself attrs :=
  ⟨_, readAttrs?_writeAttrs hk (keysApart_of_keys he) []⟩

/-- Keys come back as they were written, and values with their line ends normalized. -/
theorem rereadAttrs_eq {attrs : List Attr} (hk : ∀ a ∈ attrs, IsKey a.key)
    (hd : DistinctKeys attrs) (he : ∀ a ∈ attrs, a.key.head? ≠ some Byte.eq) :
    rereadAttrs attrs = normalizedAttrs attrs := by
  have hdistinct : DistinctKeys (normalizedAttrs attrs) := List.pairwise_map.2 hd
  rw [rereadAttrs, readAttrs?_writeAttrs hk (keysApart_of_keys he) []]
  dsimp only
  rw [decode_blockPairs, Attrs.distinct_of_distinctKeys hdistinct]

theorem SoundBlock.reread {b : Block} (h : SoundBlock b)
    (he : ∀ a ∈ b.attrs, a.key.head? ≠ some Byte.eq) : b.reread = b.normalized := by
  rw [Block.reread, rereadAttrs_eq h.isKey h.distinct he]
  rfl

theorem SoundBlock.legible {b : Block} (h : SoundBlock b) (hc : ClosesItself b.attrs) : Legible b :=
  ⟨h.isName, h.isKey, hc, h.enclosed⟩

/-! ## Directives -/

theorem Utf8.piecesFrom_eq_drop (skip : Nat) (s : Bytes) :
    Utf8.piecesFrom skip s = Utf8.piecesFrom 0 (s.drop skip) := by
  induction skip generalizing s with
  | zero => rfl
  | succ skip ih =>
    cases s with
    | nil => rfl
    | cons c s => exact ih s

theorem takeWhile_normalizeLines (s : Bytes) :
    (normalizeLines s).takeWhile Utf8.isHigh = s.takeWhile Utf8.isHigh := by
  induction s with
  | nil => rfl
  | cons c s ih =>
    rw [normalizeLines_cons]
    split
    · rename_i hc
      rw [hc, List.takeWhile_cons_of_neg (p := Utf8.isHigh) (by decide)]
      split
      · rename_i hlf
        obtain ⟨s, rfl⟩ : ∃ s', s = Byte.lf :: s' := by
          cases s with
          | nil => cases hlf
          | cons d s => exact ⟨s, by rw [Option.some.inj hlf]⟩
        rw [ih, List.takeWhile_cons_of_neg (by decide)]
      · rw [List.takeWhile_cons_of_neg (by decide)]
    · rw [List.takeWhile_cons, List.takeWhile_cons, ih]

/-- Bytes that are no characters of their own may be dropped before or after. -/
theorem drop_normalizeLines {s : Bytes} {n : Nat} (h : n ≤ (s.takeWhile Utf8.isHigh).length) :
    (normalizeLines s).drop n = normalizeLines (s.drop n) := by
  have hcr : Byte.cr ∉ s.takeWhile Utf8.isHigh := fun hm =>
    absurd (List.all_eq_true.1 List.all_takeWhile _ hm) (by decide)
  have hs := List.takeWhile_append_dropWhile (p := Utf8.isHigh) (l := s)
  generalize s.takeWhile Utf8.isHigh = front at *
  generalize s.dropWhile Utf8.isHigh = rest at *
  rw [← hs, normalizeLines_append hcr, List.drop_append_of_le_length h,
    List.drop_append_of_le_length h, normalizeLines_append fun hm => hcr (List.mem_of_mem_drop hm)]

theorem isBlank_low {b : UInt8} (hb : b < 0x80) (s : Bytes) :
    Space.isBlank (b :: s) = (Space.isSpace (Char.ofNat b.toNat) && Space.isBlank s) := by
  simp only [Space.isBlank, Utf8.chars, Utf8.pieces, Utf8.piecesFrom, Utf8.head?_of_lt hb,
    List.map_cons, List.all_cons, Utf8.Piece.toChar]

theorem isBlank_high {b : UInt8} {s : Bytes} :
    Space.isBlank (b :: s) =
      match Utf8.head? (b :: s) with
      | some (c, n) => Space.isSpace c && Space.isBlank (s.drop (n - 1))
      | none => false := by
  simp only [Space.isBlank, Utf8.chars, Utf8.pieces]
  rw [Utf8.piecesFrom]
  cases Utf8.head? (b :: s) with
  | none => rfl
  | some found =>
    dsimp only
    rw [Utf8.piecesFrom_eq_drop]
    rfl

theorem isBlank_normalizeLines (s : Bytes) :
    Space.isBlank (normalizeLines s) = Space.isBlank s := by
  induction hn : s.length using Nat.strongRecOn generalizing s with
  | ind n ih =>
    cases s with
    | nil => rfl
    | cons b s =>
      have hrec (k : Nat) : Space.isBlank (normalizeLines (s.drop k)) = Space.isBlank (s.drop k) :=
        ih _ (by rw [← hn, List.length_drop, List.length_cons]; omega) _ rfl
      have hs := hrec 0
      rw [List.drop_zero] at hs
      rw [normalizeLines_cons]
      split
      · rename_i hb
        rw [hb, isBlank_low (b := Byte.cr) (by decide)]
        split
        · rw [hs]
          rfl
        · rw [isBlank_low (by decide), hs]
          rfl
      · by_cases hlow : b < 0x80
        · rw [isBlank_low hlow, isBlank_low hlow, hs]
        · have hhead : Utf8.head? (b :: normalizeLines s) = Utf8.head? (b :: s) := by
            rw [← Utf8.head?_takeWhile hlow, takeWhile_normalizeLines, Utf8.head?_takeWhile hlow]
          rw [isBlank_high, isBlank_high, hhead]
          split
          · rename_i c k hk
            rw [← Utf8.head?_takeWhile hlow] at hk
            have hlen := (Utf8.head?_length hk).2
            rw [drop_normalizeLines (by omega), hrec]
          · rfl

theorem find?_normalized (key : Bytes) (b : Block) :
    Attr.find? key b.normalized.attrs = (Attr.find? key b.attrs).map normalizeLines := by
  simp only [Attr.find?, Block.normalized, normalizedAttrs, List.find?_map, Option.map_map]
  rfl

theorem ValidDirectives.normalized {b : Block} (h : ValidDirectives b) :
    ValidDirectives b.normalized where
  extends_ := by
    intro val hval
    rw [Block.extends?, find?_normalized] at hval
    obtain ⟨val', hval', rfl⟩ := Option.map_eq_some_iff.1 hval
    rw [isBlank_normalizeLines]
    exact h.extends_ val' hval'
  extendable := by
    intro val hval
    rw [find?_normalized] at hval
    obtain ⟨val', hval', rfl⟩ := Option.map_eq_some_iff.1 hval
    rcases h.extendable val' hval' with rfl | rfl
    · exact .inl rfl
    · exact .inr (by decide)

/-! ## Components -/

/-- The blocks beside the template that are written, with the line ends of their values
normalized. -/
def Auxiliary.normalized (a : Auxiliary) : Auxiliary where
  script := a.script.map Block.normalized
  styles := a.styles.map Block.normalized
  custom := (a.custom.filter fun b => b.type != BlockType.extension).map Block.normalized

/-- A component that is written and read again has the same blocks, but for top-level blocks of
type `extension` and for the line ends of values. -/
theorem parse_assemble_of_parse {source : Bytes} {c : Component}
    (h : Component.parse .none source = .ok c)
    (hplain : ∀ b ∈ c.blocks, b.type ≠ plaintextName)
    (hkeys : ∀ b ∈ c.blocks, ∀ a ∈ b.attrs, a.key.head? ≠ some Byte.eq) :
    Component.parse .none (assemble c.template.attrs c.template.content c.auxiliary) =
      .ok ⟨c.template.normalized, c.auxiliary.normalized⟩ := by
  obtain ⟨parts, _, hdist, hvalid⟩ := parse_ok_iff.1 h
  obtain ⟨htype, hplaced⟩ := hdist.placed
  have hsound (b : Block) (hb : b ∈ c.blocks) : SoundBlock b :=
    soundBlock_of_parse h hb (hplain b hb)
  have hlegible (b : Block) (hb : b ∈ c.blocks) : Legible b :=
    (hsound b hb).legible (closesItself_of_keys (hsound b hb).isKey (hkeys b hb))
  have hreread (b : Block) (hb : b ∈ c.blocks) : b.reread = b.normalized :=
    (hsound b hb).reread (hkeys b hb)
  have htemplate : c.template ∈ c.blocks := List.mem_cons_self ..
  have hfirst : Legible ⟨BlockType.template, c.template.attrs, c.template.content⟩ := by
    rw [← htype]
    exact hlegible _ htemplate
  have hetaReread : (⟨BlockType.template, rereadAttrs c.template.attrs, c.template.content⟩ : Block) =
      c.template.normalized := by
    rw [← hreread _ htemplate, Block.reread, htype]
  have hauxiliary : c.auxiliary.reread = c.auxiliary.normalized := by
    simp only [Auxiliary.reread, Auxiliary.normalized]
    congr 1
    · refine Option.map_congr fun b hb => hreread b ?_
      simp [Component.blocks, Option.mem_def.1 hb]
    · refine List.map_congr_left fun b hb => hreread b ?_
      simp [Component.blocks, hb]
    · refine List.map_congr_left fun b hb => hreread b ?_
      simp [Component.blocks, (List.mem_filter.1 hb).1]
  rw [parse_assemble hfirst ?_ hplaced (hetaReread ▸ hvalid.normalized),
    hetaReread, hauxiliary]
  intro b hb
  refine hlegible b (List.mem_cons_of_mem _ ?_)
  simp only [Auxiliary.written, List.mem_append, List.mem_filter] at hb ⊢
  rcases hb with (hb | hb) | hb
  · exact .inl (.inl hb.1)
  · exact .inl (.inr hb)
  · exact .inr hb

/-- A self-closing block comes back as a pair of tags, and a line end in a value as a line feed. -/
theorem parse_assemble_of_parse_docs :
    Component.parse .none "<Docs A='1'/><extension/><template lang=\"a&#13;&#10;b\"><p></template>" =
      .ok ⟨⟨"template", [⟨"lang", "a\r\nb"⟩], "<p>"⟩,
        ⟨none, [], [⟨"Docs", [⟨"A", "1"⟩], []⟩, ⟨"extension", [], []⟩]⟩⟩ ∧
    Component.parse .none "<template lang=\"a\r\nb\"><p></template>\n<Docs A=\"1\"></Docs>" =
      .ok ⟨⟨"template", [⟨"lang", "a\nb"⟩], "<p>"⟩, ⟨none, [], [⟨"Docs", [⟨"A", "1"⟩], []⟩]⟩⟩ := by
  have hparse : Component.parse .none
      "<Docs A='1'/><extension/><template lang=\"a&#13;&#10;b\"><p></template>" =
        .ok ⟨⟨"template", [⟨"lang", "a\r\nb"⟩], "<p>"⟩,
          ⟨none, [], [⟨"Docs", [⟨"A", "1"⟩], []⟩, ⟨"extension", [], []⟩]⟩⟩ := by
    decide +kernel
  exact ⟨hparse, parse_assemble_of_parse hparse (by decide +kernel) (by decide +kernel)⟩

end Graft
