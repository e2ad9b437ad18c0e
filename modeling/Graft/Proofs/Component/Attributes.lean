import Graft.Proofs.Component.Reassembled
import Graft.Proofs.Component.Shifted

/-!
# Graft.Proofs.Component.Attributes

The attributes of a block, written and read back. They are the same again unless a carriage return
stands in a value, or a key that begins with `=` stands behind a key without value: there the `=`
is read as the one that a value follows.

* `ReadsBack`: the open tag of a block is read with the attributes it was written from.
* `exists_quotes`: a value that is empty although something follows its `=`.
* `key_behind_quotes`: what is read behind such a value.
* `keysApart_of_read`: keys that are read back stand apart.
* `readsBack_iff_of_parse`: the blocks of a source.
-/

namespace Graft

open Markup

/-! ## Reading back -/

/-- The attributes that are read in a tag, repeated keys included. -/
def readAttrsOf (t : Token) : List Attr :=
  match t.kind with
  | .startTag _ attrs => spelledAttrs t.raw attrs
  | .selfClosing _ attrs => spelledAttrs t.raw attrs
  | _ => []

/-- The open tag of a block, in front of `rest`, is read as a tag with the attributes it was written
from, and with no repeated key among those that are read. -/
def ReadsBack (b : Block) (rest : Bytes) : Prop :=
  ∃ t u, scan .markup (openText b ++ rest) = .token t u ∧ readAttrsOf t = b.attrs ∧
    tagAttrs t = b.attrs

/-- Pairs as attributes, with the values decoded. -/
def decoded (pairs : List (Bytes × Bytes)) : List Attr := pairs.map fun a => ⟨a.1, decodeValue a.2⟩

theorem Markup.OpenTag.readAttrsOf {t : Token} {name : Bytes} {pairs : List (Bytes × Bytes)}
    (h : OpenTag t name pairs) : readAttrsOf t = decoded pairs := by
  have hk := h.kind
  unfold Graft.readAttrsOf
  split at hk <;> (rw [hk]; exact h.spelledAttrs)

theorem eq_nil_of_decodeValue {v : Bytes} (h : decodeValue v = []) : v = [] := by
  by_contra hne
  exact Entity.decode_ne_nil (normalizeLines_ne_nil hne) h

/-! ## A key without value in front of an equals sign -/

/-- What stands between a key and the next attribute. -/
def writeValue (a : Attr) : Bytes :=
  if a.val = [] then [] else Byte.eq :: Byte.quote :: (escapeValue a.val ++ [Byte.quote])

theorem writeAttr_append (a : Attr) (s : Bytes) :
    writeAttr a ++ s = Byte.space :: (a.key ++ (writeValue a ++ s)) := by
  rw [writeAttr, writeValue, List.cons_append, List.append_assoc]

theorem escapeValue_ne_nil {s : Bytes} (h : s ≠ []) : escapeValue s ≠ [] := by
  intro hnil
  have hdecoded := decodeValue_escapeValue s
  rw [hnil] at hdecoded
  exact normalizeLines_ne_nil h hdecoded.symm

theorem exists_stop (a : Attr) (attrs : List Attr) (s : Bytes) :
    ∃ d more, writeValue a ++ (writeAttrs attrs ++ Byte.gt :: s) = d :: more ∧
      isKeyByte d = false := by
  rw [writeValue]
  split
  · cases attrs with
    | nil => exact ⟨Byte.gt, _, rfl, by decide⟩
    | cons b attrs => exact ⟨Byte.space, _, rfl, by decide⟩
  · exact ⟨Byte.eq, _, rfl, by decide⟩

/-- A value is empty where the tag ends or where two quotes stand next to each other. -/
theorem exists_quote {s t behind : Bytes} {q : UInt8} (hs : s.dropWhile Byte.isSpace = q :: t)
    (hq : q ≠ Byte.gt) (h : readValue? (Byte.eq :: s) = some ([], behind)) :
    (q = Byte.quote ∨ q = Byte.apostrophe) ∧ t = q :: behind := by
  have heq : (Byte.eq :: s).dropWhile Byte.isSpace = Byte.eq :: s :=
    List.dropWhile_cons_of_neg (by decide)
  generalize hval : ([] : Bytes) = val at h
  cases readValue?_iff.1 h with
  | slash hs' =>
    rw [heq] at hs'
    exact absurd (List.cons.inj hs').1 (by decide)
  | missing hs' _ hne =>
    rw [heq] at hs'
    exact absurd (List.cons.inj hs').1.symm hne
  | cut hs' ht =>
    rw [heq] at hs'
    cases hs'
    rw [hs] at ht
    exact absurd (List.cons.inj ht).1 hq
  | bare => cases hval
  | @quoted _ c _ _ _ hs' ht hquote hu =>
    rw [heq] at hs'
    cases hs'
    rw [hs] at ht
    cases ht
    have hc : c = q := by simpa using Bytes.head_dropWhile hu
    have hwhole := List.takeWhile_append_dropWhile (p := (· != q)) (l := t)
    rw [← hval, hu, List.nil_append, hc] at hwhole
    exact ⟨hquote, hwhole.symm⟩

theorem exists_quotes {k s t behind : Bytes} {c d : UInt8} (hk : ∀ b ∈ c :: k, isNameByte b = true)
    (hs : s.dropWhile Byte.isSpace = c :: k ++ d :: t) (hd : isKeyByte d = false)
    (h : readValue? (Byte.eq :: s) = some ([], behind)) :
    ∃ w, k = c :: w ∧ behind = w ++ d :: t := by
  have hgt : c ≠ Byte.gt := by
    rintro rfl
    exact absurd (hk _ (List.mem_cons_self ..)) (by decide)
  obtain ⟨hquote, ht⟩ := exists_quote hs hgt h
  cases k with
  | nil =>
    obtain ⟨rfl, _⟩ := List.cons.inj ht
    rcases hquote with rfl | rfl <;> exact absurd hd (by decide)
  | cons c' w =>
    obtain ⟨rfl, hw⟩ := List.cons.inj ht
    exact ⟨w, rfl, hw.symm⟩

/-- The first attribute that is read, if the source does not begin with a `>` or a slash. -/
theorem readAttrs?_inv {s t last v k : Bytes} {c : UInt8} {pairs : List (Bytes × Bytes)}
    (hs : s.dropWhile Byte.isSpace = c :: t) (hgt : c ≠ Byte.gt) (hslash : c ≠ Byte.slash)
    (h : readAttrs? s = some ((k, v) :: pairs, last)) :
    k = c :: t.takeWhile isKeyByte ∧
      ∃ behind, readValue? (t.dropWhile isKeyByte) = some (v, behind) ∧
        readAttrs? behind = some (pairs, last) := by
  rw [readAttrs?_of_cons hs, if_neg hgt, if_neg hslash] at h
  split at h
  · cases h
  rename_i val behind hv
  obtain ⟨⟨more, last'⟩, hm, he⟩ := Option.map_eq_some_iff.1 h
  cases he
  exact ⟨rfl, behind, hv, hm⟩

theorem readAttrs?_gt_cons (s : Bytes) : readAttrs? (Byte.gt :: s) = some ([], s) :=
  readAttrs?_extend _ readAttrs?_gt s

/-- The key that is read behind a value that ended inside a written key: it does not begin with `=`,
begins with `="` in front of a written value, or is one of the keys to come. -/
theorem key_behind_quotes {w s last v k : Bytes} {a : Attr} {attrs : List Attr}
    {pairs : List (Bytes × Bytes)} (hw : ∀ b ∈ w, isKeyByte b = true)
    (hk : ∀ b ∈ attrs, IsKey b.key)
    (h : readAttrs? (w ++ (writeValue a ++ (writeAttrs attrs ++ Byte.gt :: s))) =
      some ((k, v) :: pairs, last)) :
    k.head? ≠ some Byte.eq ∨
      (∃ m, k = Byte.eq :: Byte.quote :: m ∧ m.head? ≠ some Byte.quote) ∨
        ∃ b ∈ attrs, k = b.key := by
  cases w with
  | cons c w =>
    have hc := hw c (List.mem_cons_self ..)
    simp only [isKeyByte, isNameByte, Bool.and_eq_true, Bool.not_eq_true', Bool.or_eq_false_iff,
      beq_eq_false_iff_ne, bne_iff_ne] at hc
    obtain ⟨⟨⟨hspace, hslash⟩, hgt⟩, heq⟩ := hc
    rw [List.cons_append] at h
    have hkey := (readAttrs?_inv (List.dropWhile_cons_of_neg (by simp [hspace])) hgt hslash h).1
    rw [hkey]
    exact .inl (by simpa using heq)
  | nil =>
    rw [List.nil_append, writeValue] at h
    split at h
    · rw [List.nil_append] at h
      cases attrs with
      | nil =>
        rw [writeAttrs_nil, List.nil_append, readAttrs?_gt_cons] at h
        cases h
      | cons b attrs =>
        obtain ⟨d, more, hstop, hd⟩ := exists_stop b attrs s
        rw [writeAttrs_cons, List.append_assoc, writeAttr_append, hstop,
          readAttrs?_key (hk b (List.mem_cons_self ..)) d hd] at h
        split at h
        · cases h
        obtain ⟨_, _, he⟩ := Option.map_eq_some_iff.1 h
        cases he
        exact .inr (.inr ⟨b, List.mem_cons_self .., rfl⟩)
    · rename_i hval
      obtain ⟨c, value, hvalue⟩ := List.exists_cons_of_ne_nil (escapeValue_ne_nil hval)
      have hc : c ≠ Byte.quote := by
        rintro rfl
        exact quote_not_mem_escapeValue a.val (hvalue ▸ List.mem_cons_self ..)
      rw [hvalue] at h
      simp only [List.cons_append] at h
      have hkey :=
        (readAttrs?_inv (List.dropWhile_cons_of_neg (by decide)) (by decide) (by decide) h).1
      rw [List.takeWhile_cons_of_pos (by decide)] at hkey
      refine .inr (.inl ⟨_, hkey, fun hhead => ?_⟩)
      rw [List.takeWhile_cons] at hhead
      split at hhead
      · exact hc (Option.some.inj hhead)
      · cases hhead

theorem Markup.IsKey.ne_nil {key : Bytes} (h : IsKey key) : key ≠ [] := by
  rintro rfl
  exact h

theorem Markup.IsKey.head_not_space {c : UInt8} {key : Bytes} (h : IsKey (c :: key)) :
    ¬ Byte.isSpace c = true := by
  have hc := h.1
  simp only [isNameByte, Bool.not_eq_true', Bool.or_eq_false_iff] at hc
  simp [hc.1.1]

theorem isNameByte_of_isKeyByte {b : UInt8} (h : isKeyByte b = true) : isNameByte b = true := by
  rw [isKeyByte, Bool.and_eq_true] at h
  exact h.1

/-- An empty value is read behind an `=` that a written key follows: the key begins with two quotes,
and what is read next is no key that begins with `=`, but for those that stand behind it. -/
theorem key_behind_value {s t last behind v k key : Bytes} {c : UInt8} {a : Attr}
    {attrs : List Attr} {pairs : List (Bytes × Bytes)} (hkey : IsKey (c :: key))
    (hk : ∀ b ∈ attrs, IsKey b.key)
    (hs : s.dropWhile Byte.isSpace =
      c :: key ++ (writeValue a ++ (writeAttrs attrs ++ Byte.gt :: t)))
    (hv : readValue? (Byte.eq :: s) = some ([], behind))
    (h : readAttrs? behind = some ((k, v) :: pairs, last)) :
    (∃ w, key = c :: w) ∧
      (k.head? ≠ some Byte.eq ∨
        (∃ m, k = Byte.eq :: Byte.quote :: m ∧ m.head? ≠ some Byte.quote) ∨
          ∃ b ∈ attrs, k = b.key) := by
  obtain ⟨d, more, hstop, hd⟩ := exists_stop a attrs t
  obtain ⟨w, rfl, rfl⟩ := exists_quotes hkey.bytes (hstop ▸ hs) hd hv
  have hw : ∀ b ∈ w, isKeyByte b = true := fun b hb => hkey.2 b (List.mem_cons_of_mem _ hb)
  rw [← hstop] at h
  exact ⟨⟨w, rfl⟩, key_behind_quotes hw hk h⟩

theorem readValue?_space (s : Bytes) : readValue? (Byte.space :: s) = readValue? s := by
  unfold readValue?
  rw [List.dropWhile_cons_of_pos (by decide)]

/-- Where two attributes are read back, the first of them without value, the value of the first is
read as empty and the key of the second behind it. -/
theorem exists_second {a b : Attr} {attrs : List Attr} {s last : Bytes}
    {pairs : List (Bytes × Bytes)} (hka : IsKey a.key) (ha : a.val = [])
    (h : readAttrs? (writeAttrs (a :: b :: attrs) ++ Byte.gt :: s) = some (pairs, last))
    (he : decoded pairs = a :: b :: attrs) :
    ∃ behind v more,
      readValue? (b.key ++ (writeValue b ++ (writeAttrs attrs ++ Byte.gt :: s))) =
          some ([], behind) ∧
        readAttrs? behind = some ((b.key, v) :: more, last) := by
  rw [writeAttrs_cons, List.append_assoc, writeAttr_append, writeValue, if_pos ha, writeAttrs_cons,
    List.append_assoc, List.nil_append, writeAttr_append, readAttrs?_key hka _ (by decide),
    readValue?_space] at h
  split at h
  · cases h
  rename_i val behind hv
  obtain ⟨⟨found, last'⟩, hfound, hpairs⟩ := Option.map_eq_some_iff.1 h
  cases hpairs
  obtain ⟨hfirst, hrest⟩ := List.cons.inj he
  have hval : val = [] := eq_nil_of_decodeValue ((congrArg Attr.val hfirst).trans ha)
  cases found with
  | nil => cases hrest
  | cons pair found =>
    have hsecond := congrArg Attr.key (List.cons.inj hrest).1
    exact ⟨behind, pair.2, found, hval ▸ hv, by rw [hfound, ← hsecond]⟩

/-- Behind an `=` that is a key of its own, that key is not read again. -/
theorem not_read_behind_equals {b : Attr} {attrs : List Attr} {s last behind v : Bytes}
    {more : List (Bytes × Bytes)} (hk : ∀ c ∈ attrs, IsKey c.key)
    (hfresh : ∀ c ∈ attrs, [Byte.eq] ≠ c.key)
    (hvalue : readValue? (Byte.eq :: (writeValue b ++ (writeAttrs attrs ++ Byte.gt :: s))) =
      some ([], behind)) : readAttrs? behind ≠ some (([Byte.eq], v) :: more, last) := by
  intro hmore
  by_cases hval : b.val = []
  · rw [writeValue, if_pos hval, List.nil_append] at hvalue
    cases attrs with
    | nil =>
      have hgt : readValue? (Byte.eq :: Byte.gt :: s) = some ([], Byte.gt :: s) := rfl
      rw [writeAttrs_nil, List.nil_append, hgt] at hvalue
      cases hvalue
      rw [readAttrs?_gt_cons] at hmore
      cases hmore
    | cons d attrs =>
      rw [List.forall_mem_cons] at hk hfresh
      obtain ⟨c, key, hd⟩ := List.exists_cons_of_ne_nil hk.1.ne_nil
      have hkd := hk.1
      rw [hd] at hkd
      rw [writeAttrs_cons, List.append_assoc, writeAttr_append, hd] at hvalue
      obtain ⟨_, hcases⟩ := key_behind_value hkd hk.2
        ((List.dropWhile_cons_of_pos (by decide)).trans
          (List.dropWhile_cons_of_neg hkd.head_not_space)) hvalue hmore
      rcases hcases with hhead | ⟨m, hm, _⟩ | ⟨e, hmem, hsame⟩
      · exact hhead rfl
      · cases hm
      · exact hfresh.2 e hmem hsame
  · rw [writeValue, if_neg hval] at hvalue
    obtain ⟨hquote, _⟩ := exists_quote (List.dropWhile_cons_of_neg (by decide)) (by decide) hvalue
    exact absurd hquote (by decide)

/-- Behind a key without value a key that begins with `=` is not read as a key. -/
theorem not_read_behind_bare {a b : Attr} {attrs : List Attr} {s last : Bytes}
    {pairs : List (Bytes × Bytes)} (hk : ∀ c ∈ a :: b :: attrs, IsKey c.key)
    (hd : DistinctKeys (a :: b :: attrs)) (ha : a.val = []) (hb : b.key.head? = some Byte.eq)
    (h : readAttrs? (writeAttrs (a :: b :: attrs) ++ Byte.gt :: s) = some (pairs, last)) :
    decoded pairs ≠ a :: b :: attrs := by
  intro he
  simp only [List.forall_mem_cons] at hk
  obtain ⟨hka, hkb, hk⟩ := hk
  have hfresh : ∀ c ∈ attrs, b.key ≠ c.key := (List.pairwise_cons.1 (List.pairwise_cons.1 hd).2).1
  obtain ⟨behind, v, more, hvalue, hmore⟩ := exists_second hka ha h he
  obtain ⟨key, hkey⟩ : ∃ key, b.key = Byte.eq :: key := List.head?_eq_some_iff.1 hb
  rw [hkey] at hvalue hmore hkb hfresh
  cases key with
  | nil => exact not_read_behind_equals hk hfresh hvalue hmore
  | cons c key =>
    have hkey' : IsKey (c :: key) :=
      ⟨isNameByte_of_isKeyByte (hkb.2 c (List.mem_cons_self ..)),
        fun d hd => hkb.2 d (List.mem_cons_of_mem _ hd)⟩
    obtain ⟨⟨w, rfl⟩, hcases⟩ :=
      key_behind_value hkey' hk (List.dropWhile_cons_of_neg hkey'.head_not_space) hvalue hmore
    rcases hcases with hhead | ⟨m, hm, hquote⟩ | ⟨d, hmem, hsame⟩
    · exact hhead rfl
    · cases hm
      exact hquote rfl
    · exact hfresh d hmem hsame

theorem keysApart_of_read {attrs : List Attr} {s last : Bytes} {pairs : List (Bytes × Bytes)}
    (hk : ∀ a ∈ attrs, IsKey a.key) (hd : DistinctKeys attrs)
    (h : readAttrs? (writeAttrs attrs ++ Byte.gt :: s) = some (pairs, last))
    (he : decoded pairs = attrs) : KeysApart attrs := by
  induction attrs generalizing pairs with
  | nil => exact .nil
  | cons a attrs ih =>
    cases attrs with
    | nil => exact .singleton a
    | cons b attrs =>
      have hapart : a.val = [] → b.key.head? ≠ some Byte.eq :=
        fun ha hb => not_read_behind_bare hk hd ha hb h he
      rw [List.forall_mem_cons] at hk
      have hends : a.val = [] → EndsKey (writeAttrs (b :: attrs) ++ Byte.gt :: s) := by
        intro ha
        rw [writeAttrs_cons, List.append_assoc]
        exact endsKey_writeAttr (hk.2 b (List.mem_cons_self ..)) (hapart ha) _
      rw [writeAttrs_cons, List.append_assoc, readAttrs?_writeAttr hk.1 hends] at h
      obtain ⟨⟨more, last'⟩, hmore, hpairs⟩ := Option.map_eq_some_iff.1 h
      cases hpairs
      exact List.isChain_cons_cons.2
        ⟨hapart, ih hk.2 (List.pairwise_cons.1 hd).2 hmore (List.cons.inj he).2⟩

/-! ## Blocks -/

theorem exists_read {b : Block} {rest u : Bytes} {t : Token} (hn : IsTagName b.type)
    (h : scan .markup (openText b ++ rest) = .token t u) :
    ∃ pairs, OpenTag t b.type pairs ∧
      readAttrs? (writeAttrs b.attrs ++ Byte.gt :: rest) = some (pairs, u) := by
  have happ : t.raw ++ u = openText b ++ rest := scan_append h
  obtain ⟨name, pairs, ht⟩ : ∃ name pairs, OpenTag t name pairs := by
    obtain ⟨c, more, hname, hc⟩ := hn.exists_cons
    rw [openText, hname] at h
    exact openTag_of_letter hc h
  obtain ⟨body, hraw, hread⟩ := ht.raw
  have hbody : body ++ u = b.type ++ (writeAttrs b.attrs ++ Byte.gt :: rest) := by
    rw [hraw, openText] at happ
    simpa using happ
  obtain ⟨d, more, hstop, hd⟩ : ∃ d more, writeAttrs b.attrs ++ Byte.gt :: rest = d :: more ∧
      isNameByte d = false := by
    cases b.attrs with
    | nil => exact ⟨_, _, rfl, by decide⟩
    | cons a attrs => exact ⟨_, _, rfl, by decide⟩
  have hextended := readTag?_extend hread u
  rw [hbody, hstop, readTag?, Bytes.dropWhile_append_stop hn.bytes hd,
    Bytes.takeWhile_append_stop hn.bytes hd, ← hstop] at hextended
  obtain ⟨⟨found, last⟩, hfound, he⟩ := Option.map_eq_some_iff.1 hextended
  cases he
  exact ⟨pairs, ht, hfound⟩

theorem normalizedAttrs_eq_self_iff {attrs : List Attr} :
    normalizedAttrs attrs = attrs ↔ ∀ a ∈ attrs, Byte.cr ∉ a.val := by
  constructor
  · intro h a ha
    rw [← h] at ha
    obtain ⟨a', _, rfl⟩ := List.mem_map.1 ha
    exact cr_not_mem_normalizeLines a'.val
  · intro h
    rw [normalizedAttrs]
    conv_rhs => rw [← List.map_id attrs]
    refine List.map_congr_left fun a ha => ?_
    rw [normalizeLines_of_not_mem (h a ha)]
    rfl

theorem SoundTag.readsBack_iff {b : Block} (h : SoundTag b) (rest : Bytes) :
    ReadsBack b rest ↔ (∀ a ∈ b.attrs, Byte.cr ∉ a.val) ∧ KeysApart b.attrs := by
  constructor
  · rintro ⟨t, u, hscan, hattrs, _⟩
    obtain ⟨pairs, ht, hread⟩ := exists_read h.isName hscan
    have hdecoded : decoded pairs = b.attrs := ht.readAttrsOf.symm.trans hattrs
    have hapart := keysApart_of_read h.isKey h.distinct hread hdecoded
    rw [readAttrs?_writeAttrs h.isKey hapart] at hread
    cases hread
    exact ⟨normalizedAttrs_eq_self_iff.1 ((decode_blockPairs _).symm.trans hdecoded), hapart⟩
  · rintro ⟨hvalues, hapart⟩
    have hread := readAttrs?_writeAttrs h.isKey hapart []
    obtain ⟨t, ht, _, hraw⟩ := openTag_of_text h.isName (head?_writeAttrs b.attrs)
      (getLast?_writeAttrs h.isName.getLast? h.isKey) hread
    have hdecoded : decoded (blockPairs b.attrs) = b.attrs :=
      (decode_blockPairs _).trans (normalizedAttrs_eq_self_iff.2 hvalues)
    have hscan := ht.scan rest
    rw [hraw] at hscan
    refine ⟨t, rest, hscan, ht.readAttrsOf.trans hdecoded, ?_⟩
    exact ht.tagAttrs.trans ((congrArg _ hdecoded).trans (Attrs.distinct_of_distinctKeys h.distinct))

/-- The attributes of a block of a source survive being written and read back exactly if no value
holds a carriage return and no key that begins with `=` stands behind a key without value. -/
theorem readsBack_iff_of_parse {pad : Padding} {source : Bytes} {c : Component}
    (h : Component.parse pad source = .ok c) {b : Block} (hb : b ∈ c.blocks) (rest : Bytes) :
    ReadsBack b rest ↔ (∀ a ∈ b.attrs, Byte.cr ∉ a.val) ∧ KeysApart b.attrs :=
  (soundTag_of_parse h hb).readsBack_iff rest

/-- A block with references in a value and a key that begins with `=` behind it. -/
theorem readsBack_docs :
    Component.parse .none "<template></template><docs K='1&amp;2' =x b>y</docs>" =
        .ok ⟨⟨"template", [], []⟩,
          ⟨none, [], [⟨"docs", [⟨"K", "1&2"⟩, ⟨"=x", []⟩, ⟨"b", []⟩], "y"⟩]⟩⟩ ∧
      ReadsBack ⟨"docs", [⟨"K", "1&2"⟩, ⟨"=x", []⟩, ⟨"b", []⟩], "y"⟩ "y</docs>" := by
  have hparse : Component.parse .none "<template></template><docs K='1&amp;2' =x b>y</docs>" =
      .ok ⟨⟨"template", [], []⟩,
        ⟨none, [], [⟨"docs", [⟨"K", "1&2"⟩, ⟨"=x", []⟩, ⟨"b", []⟩], "y"⟩]⟩⟩ := by
    decide +kernel
  refine ⟨hparse, (readsBack_iff_of_parse hparse (by decide) _).2 ⟨by decide, ?_⟩⟩
  unfold KeysApart
  decide

/-- A carriage return that stands as a reference in the source is written as it is, and read back as
a line feed. A key without value is written right in front of a key that begins with `=`, and that
key is read back as its value. -/
theorem not_readsBack :
    (Component.parse .none "<template></template><docs k=\"&#13;\"></docs>" =
        .ok ⟨⟨"template", [], []⟩, ⟨none, [], [⟨"docs", [⟨"k", "\r"⟩], []⟩]⟩⟩ ∧
      ¬ ReadsBack ⟨"docs", [⟨"k", "\r"⟩], []⟩ "</docs>") ∧
    Component.parse .none "<template></template><docs a/=x></docs>" =
        .ok ⟨⟨"template", [], []⟩, ⟨none, [], [⟨"docs", [⟨"a", []⟩, ⟨"=x", []⟩], []⟩]⟩⟩ ∧
      ¬ ReadsBack ⟨"docs", [⟨"a", []⟩, ⟨"=x", []⟩], []⟩ "</docs>" := by
  have hreturn : Component.parse .none "<template></template><docs k=\"&#13;\"></docs>" =
      .ok ⟨⟨"template", [], []⟩, ⟨none, [], [⟨"docs", [⟨"k", "\r"⟩], []⟩]⟩⟩ := by
    decide +kernel
  have hkey : Component.parse .none "<template></template><docs a/=x></docs>" =
      .ok ⟨⟨"template", [], []⟩, ⟨none, [], [⟨"docs", [⟨"a", []⟩, ⟨"=x", []⟩], []⟩]⟩⟩ := by
    decide +kernel
  refine ⟨⟨hreturn, fun h => ?_⟩, hkey, fun h => ?_⟩
  · have hvalues := (((soundTag_of_parse hreturn (by decide)).readsBack_iff _).1 h).1
    revert hvalues
    decide
  · have hapart := (((soundTag_of_parse hkey (by decide)).readsBack_iff _).1 h).2
    revert hapart
    unfold KeysApart
    decide

end Graft
