import Graft.Proofs.Component.Padded
import Graft.Proofs.Markup.Swallowed

/-!
# Graft.Proofs.Component.Reassembled

What it takes for a component that was put together to be read at all, and how a content may be cut
at its beginning.

* `not_parts_of_opening`: a block that nothing closes.
* `sound_of_parse_assemble`: the tree in a template that is read.
* `ne_plaintext_of_parse_assemble`: the blocks behind a template that are read.
* `contained_of_enclosed`, `enclosed_of_contained`: the content of a raw block.
* `enclosed_of_append`: the same without filler in front of it.
-/

namespace Graft

open Markup

/-! ## Blocks that stay open -/

theorem not_parts_of_opening {parts : List Part} {t : Token} {ts : List Token} {lowered : Bytes}
    {attrs : List Attr} (hw : ∀ part ∈ parts, part.WellFormed) (hk : t.kind = .startTag lowered attrs)
    (ho : Opening ts) : parts.flatMap Part.tokens ≠ t :: ts := by
  intro he
  cases parts with
  | nil => cases he
  | cons part parts =>
    have hpart := hw part (List.mem_cons_self ..)
    rw [List.flatMap_cons] at he
    cases part with
    | gap t' =>
      obtain ⟨rfl, _⟩ := List.cons.inj he
      simp [Part.WellFormed, isGap, hk] at hpart
    | single t' =>
      obtain ⟨rfl, _⟩ := List.cons.inj he
      obtain ⟨_, _, hk'⟩ := hpart
      rw [hk] at hk'
      cases hk'
    | pair start inner stop =>
      obtain ⟨rfl, hts⟩ := List.cons.inj he
      obtain ⟨_, hn, hs⟩ := hpart
      have hfront : inner ++ [stop] <+: ts := ⟨_, hts⟩
      have hlevel := ho (tagName start) _ hfront
      have hsettled := hn.settled
      rw [level_append, level_cons, level_nil, nesting_of_isStop hs] at hlevel
      omega

theorem exists_start {b : Block} (hn : IsTagName b.type) (hk : ∀ a ∈ b.attrs, IsKey a.key)
    (hc : ClosesItself b.attrs) :
    ∃ t lowered attrs, t.kind = .startTag lowered attrs ∧ ∀ x,
      tokens (b.source ++ x) =
        t :: tokensFrom (contentMode b.type) (b.content ++ (endText b.type ++ x)) := by
  obtain ⟨pairs, hpairs⟩ := hc
  obtain ⟨t, ht, hslash, hraw⟩ :=
    openTag_of_text hn (head?_writeAttrs b.attrs) (getLast?_writeAttrs hn.getLast? hk) hpairs
  have hkind := ht.kind
  rw [hslash, if_neg Bool.false_ne_true] at hkind
  refine ⟨t, _, _, hkind, fun x => ?_⟩
  have hmode : t.mode = contentMode b.type := by rw [ht.mode, if_neg (by simp [hslash])]
  have hscan : scan .markup (b.source ++ x) = .token t (b.content ++ (endText b.type ++ x)) := by
    rw [source_append, ← hraw]
    exact ht.scan _
  rw [tokens, tokensFrom_of_token hscan, hmode]

theorem isTagName_template : IsTagName BlockType.template :=
  ⟨forall_mem_of_all (by decide), by decide⟩

/-- The tree of a template that is read can be read back: behind a tree that is not sound the
template would stay open. -/
theorem sound_of_parse_assemble {attrs : List Attr} {forest : List Node} {body : Bytes}
    {a : Auxiliary} {c : Component} (hk : ∀ a ∈ attrs, IsKey a.key) (hcloses : ClosesItself attrs)
    (hs : ∀ node ∈ forest, Shaped (fun _ => True) RawData node) (hr : render forest = .ok body)
    (hc : Component.parse .none (assemble attrs body a) = .ok c) : ∀ node ∈ forest, Sound node := by
  refine (sound_or_opening hs hr).resolve_right fun ho => ?_
  obtain ⟨parts, hparts, _⟩ := parse_ok_iff.1 hc
  obtain ⟨t, lowered, pairs, hkind, htokens⟩ :=
    exists_start (b := ⟨BlockType.template, attrs, body⟩) isTagName_template hk hcloses
  refine not_parts_of_opening hparts.wellFormed hkind ?_
    (hparts.tokens.trans (assemble_eq attrs body a ▸ htokens _))
  rw [show contentMode BlockType.template = .markup by decide]
  exact ho _

/-- The tag of a block, whatever its content. -/
structure SoundTag (b : Block) : Prop where
  isName : IsTagName b.type
  isKey : ∀ a ∈ b.attrs, IsKey a.key
  distinct : DistinctKeys b.attrs

theorem soundTag_of_parse {pad : Padding} {source : Bytes} {c : Component}
    (h : Component.parse pad source = .ok c) {b : Block} (hb : b ∈ c.blocks) : SoundTag b := by
  have tagged {t : Token} {name content : Bytes} {pairs : List (Bytes × Bytes)}
      (ht : OpenTag t name pairs) : SoundTag ⟨tagName t, tagAttrs t, content⟩ := by
    rw [ht.tagName, ht.tagAttrs]
    refine ⟨ht.isName, fun a ha => ?_, Attrs.distinctKeys_distinct _⟩
    obtain ⟨pair, hpair, rfl⟩ := List.mem_map.1 ((Attrs.distinct_sublist _).subset ha)
    exact ht.isKey pair hpair
  obtain ⟨parts, hparts, hdist, _⟩ := parse_ok_iff.1 h
  obtain ⟨part, hpart, n, hn⟩ := exists_of_mem_blocksFrom (hdist.mem hb)
  obtain ⟨s, s', hsteps⟩ := hparts.exists_steps hpart
  have hw := hparts.wellFormed part hpart
  cases part with
  | gap t => cases hn
  | single t =>
    cases hn
    obtain ⟨lowered, attrs, hk⟩ := hw
    obtain ⟨name, pairs, hopen⟩ := selfClosing_of_kind hsteps.cases_cons.1 hk
    exact tagged hopen
  | pair start inner stop =>
    cases hn
    obtain ⟨name, ⟨run⟩⟩ := exists_pairRun hw hsteps
    exact tagged run.openTag

/-- Among written blocks that are parts there is none of type `plaintext`. -/
theorem ne_plaintext_of_parts {bs : List Block} (htag : ∀ b ∈ bs, SoundTag b)
    (hlegible : ∀ b ∈ bs, b.type ≠ plaintextName → Legible b)
    (hc : ∀ b ∈ bs, ClosesItself b.attrs) {parts : List Part}
    (hw : ∀ part ∈ parts, part.WellFormed)
    (h : parts.flatMap Part.tokens =
      tokens (("\n" : Bytes) ++ Bytes.joinWith "\n" (bs.map Block.source))) :
    ∀ b ∈ bs, b.type ≠ plaintextName := by
  induction bs generalizing parts with
  | nil => simp
  | cons b bs ih =>
    rw [List.forall_mem_cons] at htag hlegible hc
    obtain ⟨x, hjoin, hx⟩ : ∃ x, Bytes.joinWith "\n" ((b :: bs).map Block.source) = b.source ++ x ∧
        (bs = [] ∨ x = ("\n" : Bytes) ++ Bytes.joinWith "\n" (bs.map Block.source)) := by
      cases bs with
      | nil => exact ⟨[], by simp [Bytes.joinWith], .inl rfl⟩
      | cons b' bs => exact ⟨_, by simp [Bytes.joinWith], .inr rfl⟩
    have hstarts : startsMarkup (b.source ++ x) = true := by
      obtain ⟨c, more, hname, hletter⟩ := htag.1.isName.exists_cons
      rw [source_append, hname]
      simp [startsMarkup, hletter]
    rw [hjoin, tokens, tokensFrom_of_steps (steps_feed (textRest_of_startsMarkup hstarts))] at h
    cases parts with
    | nil => cases h
    | cons feed parts =>
      rw [List.forall_mem_cons] at hw
      obtain ⟨_, h⟩ := Part.unique hw.1 Part.WellFormed.feed h
      have hne : b.type ≠ plaintextName := by
        intro hp
        obtain ⟨t, lowered, attrs, hkind, htokens⟩ := exists_start htag.1.isName htag.1.isKey hc.1
        refine not_parts_of_opening hw.2 hkind ?_ (h.trans (htokens x))
        rw [hp, show contentMode plaintextName = .raw .plaintext by decide]
        exact opening_plaintext _
      refine List.forall_mem_cons.2 ⟨hne, ?_⟩
      rcases hx with rfl | rfl
      · simp
      obtain ⟨part, hpart, _, hsteps⟩ := (hlegible.1 hne).exists_part
        (("\n" : Bytes) ++ Bytes.joinWith "\n" (bs.map Block.source))
      rw [show tokensFrom .markup _ = part.tokens ++ _ from tokensFrom_of_steps hsteps] at h
      cases parts with
      | nil =>
        exact absurd (List.append_eq_nil_iff.1 h.symm).1 part.tokens_ne_nil
      | cons first parts =>
        rw [List.forall_mem_cons] at hw
        obtain ⟨_, h⟩ := Part.unique hw.2.1 hpart h
        exact ih htag.2 hlegible.2 hc.2 hw.2.2 h

theorem ne_plaintext_of_parse_assemble {attrs : List Attr} {body : Bytes} {a : Auxiliary}
    {c : Component} (ht : Legible ⟨BlockType.template, attrs, body⟩)
    (htag : ∀ b ∈ a.written, SoundTag b)
    (hlegible : ∀ b ∈ a.written, b.type ≠ plaintextName → Legible b)
    (hcloses : ∀ b ∈ a.written, ClosesItself b.attrs)
    (hc : Component.parse .none (assemble attrs body a) = .ok c) :
    ∀ b ∈ a.written, b.type ≠ plaintextName := by
  obtain ⟨parts, hparts, _⟩ := parse_ok_iff.1 hc
  obtain ⟨part, hpart, _, hsteps⟩ := ht.exists_part (("\n" : Bytes) ++ a.source)
  have htokens := hparts.tokens
  rw [tokens, assemble_eq, tokensFrom_of_steps hsteps] at htokens
  cases parts with
  | nil => exact absurd (List.append_eq_nil_iff.1 htokens.symm).1 part.tokens_ne_nil
  | cons first parts =>
    have hw := List.forall_mem_cons.1 hparts.wellFormed
    exact ne_plaintext_of_parts htag hlegible hcloses hw.2 (Part.unique hw.1 hpart htokens).2

/-! ## Raw contents -/

theorem contentMode_name (element : RawElement) : contentMode element.name = .raw element := by
  rw [contentMode, element.ofName?_name]

theorem not_nested_of_closeTag {t : Token} {name : Bytes} {ts : List Token} {element : RawElement}
    (ht : CloseTag t name) (hname : name.lower = element.name) :
    ¬ Nested element.name (t :: ts) := by
  intro hn
  have halike : Fold.alike name element.name = true := hname ▸ Fold.alike_lower name
  have hnesting : nesting element.name t = -1 := by rw [nesting_closeTag ht, if_pos halike]
  have hnonneg := (nestedFrom_cons.1 hn).2.nonneg [] List.nil_prefix
  rw [hnesting, level_nil] at hnonneg
  omega

theorem contained_of_enclosed {element : RawElement} (he : element ≠ .plaintext) {content : Bytes}
    (h : Enclosed element.name content) : Contained element content := by
  obtain ⟨inner, mode, hsteps, hn, _⟩ := h []
  rw [contentMode_name] at hsteps
  have hcontent : slices inner = content := List.append_cancel_right hsteps.append
  cases inner with
  | nil =>
    rw [← hcontent]
    exact contained_of_lt_not_mem he (by simp [slices_nil])
  | cons t ts =>
    obtain ⟨hscan, hrest⟩ := hsteps.cases_cons
    rcases scan_raw_cases hscan with ⟨hc, hk⟩ | ⟨_, name, ht, hname⟩
    · -- the text goes up to the end tag of the element, so nothing else is nested
      cases ts with
      | nil =>
        rw [slices_cons, slices_nil, List.append_nil] at hcontent
        rw [slices_nil, List.nil_append, hcontent] at hc
        exact contained_of_contentRest hc (by simp [endText])
      | cons t' ts =>
        have hnext := hrest.cases_cons.1
        have hmode : t.mode = .markup := by rw [Token.mode, hk]
        rw [hmode] at hnext
        have hend := startsRawEnd_contentRest element
          (t.raw ++ (slices (t' :: ts) ++ (endText element.name ++ [])))
        rw [hc, slices_cons, List.append_assoc] at hend
        obtain ⟨name, ht, hname⟩ := closeTag_of_startsRawEnd hnext
          (hend.resolve_left fun hnil => scan_raw_ne_nil hnext (List.append_eq_nil_iff.1 hnil).1)
        have hn' := (nestedFrom_cons.1 hn).2
        rw [nesting_of_text hk] at hn'
        exact absurd hn' (not_nested_of_closeTag ht hname)
    · exact absurd hn (not_nested_of_closeTag ht hname)

theorem enclosed_of_contained {element : RawElement} (he : element ≠ .plaintext) {content : Bytes}
    (h : Contained element content) : Enclosed element.name content := by
  have hname : IsTagName element.name :=
    ⟨element.isNameByte_name, by cases element <;> decide⟩
  have hclose := closeTag_written hname
  by_cases hnil : content = []
  · rw [hnil]
    refine enclosed_nil hname fun hp => he ?_
    have hof := element.ofName?_name
    rw [hp, show RawElement.ofName? plaintextName = some .plaintext by decide] at hof
    exact (Option.some.inj hof).symm
  · intro x
    have hscan := scan_of_content hnil
      (h (endText element.name ++ x) ((hclose.startsRawEnd_iff element x).2 element.lower_name))
    rw [contentMode_name]
    exact ⟨_, .markup, .single hscan, nested_singleton rfl, hclose.scan x⟩

/-- Filler without `<` in front of the content of a raw block may be taken away. -/
theorem enclosed_of_append {element : RawElement} (he : element ≠ .plaintext) {p content : Bytes}
    (hp : Byte.lt ∉ p) (h : Enclosed element.name (p ++ content)) : Enclosed element.name content := by
  refine enclosed_of_contained he fun x hx => ?_
  have hc := contained_of_enclosed he h x hx
  rwa [List.append_assoc, contentRest_prepend hp] at hc

end Graft
