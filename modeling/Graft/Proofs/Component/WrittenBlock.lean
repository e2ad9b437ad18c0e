import Graft.Component.Write
import Graft.Proofs.Component.Enclosed

/-!
# Graft.Proofs.Component.WrittenBlock

Reading back written blocks. A block is read back if its start tag ends at its own `>` and its
content stays inside; its type and content come back as they were.

* `rereadAttrs`, `Block.reread`: the attributes as they are read back, and the block.
* `Legible`: a block whose written form is a block again.
* `exists_parts`: the parts of written blocks.
* `parse_assemble`: a written component.
-/

namespace Graft

open Markup

/-! ## Attributes -/

theorem Markup.IsKey.bytes {key : Bytes} (h : IsKey key) : ∀ b ∈ key, isNameByte b = true := by
  match key, h with
  | c :: key, ⟨hc, hkey⟩ =>
    intro b hb
    rcases List.mem_cons.1 hb with rfl | hb
    · exact hc
    · have := hkey b hb
      rw [isKeyByte, Bool.and_eq_true] at this
      exact this.1

/-- An attribute as it is written in a block. -/
def writeAttr (a : Attr) : Bytes :=
  Byte.space :: (a.key ++
    if a.val = [] then [] else Byte.eq :: Byte.quote :: (escapeValue a.val ++ [Byte.quote]))

theorem writeAttrs_nil : writeAttrs [] = [] := rfl

theorem writeAttrs_cons (a : Attr) (attrs : List Attr) :
    writeAttrs (a :: attrs) = writeAttr a ++ writeAttrs attrs := by
  simp only [writeAttrs, List.flatMap_cons, writeAttr, List.cons_append, List.isEmpty_iff]
  rfl

theorem head?_writeAttrs (attrs : List Attr) :
    ∀ d ∈ (writeAttrs attrs).head?, isNameByte d = false := by
  cases attrs with
  | nil => simp [writeAttrs_nil]
  | cons a attrs =>
    rw [writeAttrs_cons]
    simp only [writeAttr, List.cons_append, List.head?_cons, Option.mem_some_iff, forall_eq']
    decide

theorem getLast?_writeAttr {a : Attr} (h : IsKey a.key) (s : Bytes) :
    (s ++ writeAttr a).getLast? ≠ some Byte.slash := by
  unfold writeAttr
  split
  · intro hlast
    obtain ⟨c, key, hkey⟩ := List.exists_cons_of_ne_nil (l := a.key) (by
      intro hnil
      rw [hnil] at h
      exact h)
    have hmem : Byte.slash ∈ a.key := by
      rw [List.append_nil, hkey, List.getLast?_append, List.getLast?_cons_cons] at hlast
      rw [hkey]
      refine List.mem_of_getLast? ?_
      cases hl : (c :: key).getLast? with
      | none => simp at hl
      | some b => rw [hl] at hlast; exact hlast
    exact absurd (h.bytes _ hmem) (by decide)
  · rw [show s ++
        Byte.space :: (a.key ++ Byte.eq :: Byte.quote :: (escapeValue a.val ++ [Byte.quote])) =
      (s ++ Byte.space :: (a.key ++ Byte.eq :: Byte.quote :: escapeValue a.val)) ++ [Byte.quote]
      by simp]
    rw [List.getLast?_concat]
    decide

theorem getLast?_writeAttrs {s : Bytes} (h : s.getLast? ≠ some Byte.slash) {attrs : List Attr}
    (hk : ∀ a ∈ attrs, IsKey a.key) : (s ++ writeAttrs attrs).getLast? ≠ some Byte.slash := by
  induction attrs generalizing s with
  | nil => simpa [writeAttrs_nil] using h
  | cons a attrs ih =>
    rw [List.forall_mem_cons] at hk
    rw [writeAttrs_cons, ← List.append_assoc]
    exact ih (getLast?_writeAttr hk.1 s) hk.2

/-- The attributes read back from a written start tag. -/
def rereadAttrs (attrs : List Attr) : List Attr :=
  match readAttrs? (writeAttrs attrs ++ [Byte.gt]) with
  | some (pairs, _) => Attrs.distinct (pairs.map fun a => ⟨a.1, decodeValue a.2⟩)
  | none => []

/-- The start tag ends at its own `>`. -/
def ClosesItself (attrs : List Attr) : Prop :=
  ∃ pairs, readAttrs? (writeAttrs attrs ++ [Byte.gt]) = some (pairs, [])

/-! ## Blocks -/

def Block.reread (b : Block) : Block := { b with attrs := rereadAttrs b.attrs }

/-- A block whose written form is a block again. -/
structure Legible (b : Block) : Prop where
  isName : IsTagName b.type
  isKey : ∀ a ∈ b.attrs, IsKey a.key
  closes : ClosesItself b.attrs
  enclosed : Enclosed b.type b.content

theorem source_append (b : Block) (x : Bytes) :
    b.source ++ x =
      Byte.lt :: b.type ++ writeAttrs b.attrs ++ [Byte.gt] ++ (b.content ++ (endText b.type ++ x)) := by
  simp only [Block.source, endText, List.append_assoc, List.cons_append]
  rfl

theorem Markup.OpenTag.tagAttrs {t : Token} {name : Bytes} {pairs : List (Bytes × Bytes)}
    (h : OpenTag t name pairs) :
    tagAttrs t = Attrs.distinct (pairs.map fun a => ⟨a.1, decodeValue a.2⟩) := by
  have hk := h.kind
  unfold Graft.tagAttrs
  split at hk <;> (rw [hk]; dsimp only; rw [h.spelledAttrs])

theorem Legible.exists_part {b : Block} (h : Legible b) (x : Bytes) :
    ∃ part : Part, part.WellFormed ∧ part.block? = some b.reread ∧
      Steps .markup (b.source ++ x) part.tokens .markup x := by
  obtain ⟨pairs, hpairs⟩ := h.closes
  obtain ⟨t, ht, hslash, hraw⟩ := openTag_of_text h.isName (head?_writeAttrs b.attrs)
    (getLast?_writeAttrs h.isName.getLast? h.isKey) hpairs
  obtain ⟨inner, mode, hsteps, hnested, hstop⟩ := h.enclosed x
  have hclose := closeTag_written h.isName
  have hkind := ht.kind
  rw [hslash, if_neg Bool.false_ne_true] at hkind
  have hmode : t.mode = contentMode b.type := by rw [ht.mode, if_neg (by simp [hslash])]
  have hslices : slices inner = b.content := List.append_cancel_right hsteps.append
  refine ⟨.pair t inner ⟨endText b.type, .endTag b.type.lower⟩, ⟨⟨_, _, hkind⟩, ?_, ?_⟩, ?_, ?_⟩
  · rwa [ht.tagName]
  · rw [ht.tagName, isStop]
    dsimp only
    rw [hclose.spelledName]
    exact Fold.alike_refl _
  · simp only [Part.block?, ht.tagName, ht.tagAttrs, hslices, Block.reread, rereadAttrs, hpairs]
  · have hscan := ht.scan (b.content ++ (endText b.type ++ x))
    rw [source_append, ← hraw]
    exact .cons hscan (hmode ▸ hsteps.trans (.single hstop))

/-! ## Components -/

theorem Part.WellFormed.feed : (Part.gap ⟨"\n", .text (decodeText "\n")⟩).WellFormed := rfl

theorem steps_feed {x : Bytes} (hx : textRest x = x) :
    Steps .markup (("\n" : Bytes) ++ x) [⟨"\n", .text (decodeText "\n")⟩] .markup x := by
  have hscan := scanMarkup_prepend (p := "\n") (u := []) (by decide) (by decide) hx
  rw [List.append_nil] at hscan
  exact .of_scanMarkup hscan rfl

theorem Legible.startsMarkup {b : Block} (h : Legible b) (x : Bytes) :
    startsMarkup (b.source ++ x) = true := by
  obtain ⟨c, more, hname, hc⟩ := h.isName.exists_cons
  rw [source_append, hname]
  simp [Markup.startsMarkup, hc]

theorem exists_parts {bs : List Block} (h : ∀ b ∈ bs, Legible b) :
    ∃ parts : List Part, (∀ part ∈ parts, part.WellFormed) ∧ blocksOf parts = bs.map Block.reread ∧
      Steps .markup (("\n" : Bytes) ++ Bytes.joinWith "\n" (bs.map Block.source))
        (parts.flatMap Part.tokens) .markup [] := by
  induction bs with
  | nil =>
    refine ⟨[.gap _], ?_, rfl, steps_feed (x := []) rfl⟩
    intro part hpart
    rw [List.mem_singleton.1 hpart]
    exact Part.WellFormed.feed
  | cons b bs ih =>
    rw [List.forall_mem_cons] at h
    obtain ⟨x, parts, hjoin, hw, hblocks, hsteps⟩ : ∃ (x : Bytes) (parts : List Part),
        Bytes.joinWith "\n" ((b :: bs).map Block.source) = b.source ++ x ∧
        (∀ part ∈ parts, part.WellFormed) ∧ blocksOf parts = bs.map Block.reread ∧
        Steps .markup x (parts.flatMap Part.tokens) .markup [] := by
      cases bs with
      | nil => exact ⟨[], [], by simp [Bytes.joinWith], by simp, rfl, .refl⟩
      | cons b' bs =>
        obtain ⟨parts, hw, hblocks, hsteps⟩ := ih h.2
        exact ⟨_, parts, by simp [Bytes.joinWith], hw, hblocks, hsteps⟩
    obtain ⟨part, hpart, hblock, hfirst⟩ := h.1.exists_part x
    have hfeed := steps_feed (textRest_of_startsMarkup (h.1.startsMarkup x))
    rw [hjoin]
    refine ⟨.gap _ :: part :: parts, ?_, ?_, hfeed.trans (hfirst.trans hsteps)⟩
    · exact List.forall_mem_cons.2 ⟨Part.WellFormed.feed, List.forall_mem_cons.2 ⟨hpart, hw⟩⟩
    · rw [blocksOf, List.filterMap_cons_none rfl, List.filterMap_cons_some hblock, List.map_cons]
      exact congrArg _ hblocks

/-- The blocks beside the template stand where they belong. -/
structure Placed (a : Auxiliary) : Prop where
  script : ∀ b ∈ a.script, b.type = BlockType.script
  styles : ∀ b ∈ a.styles, b.type = BlockType.style
  custom : ∀ b ∈ a.custom, b.type ≠ BlockType.template ∧ b.type ≠ BlockType.script ∧
    b.type ≠ BlockType.style

/-- The blocks beside the template as they are read back. -/
def Auxiliary.reread (a : Auxiliary) : Auxiliary where
  script := a.script.map Block.reread
  styles := a.styles.map Block.reread
  custom := (a.custom.filter fun b => b.type != BlockType.extension).map Block.reread

theorem ofType_of_all {type : Bytes} {bs : List Block} (h : ∀ b ∈ bs, b.type = type) :
    ofType type bs = bs :=
  List.filter_eq_self.2 fun b hb => by rw [h b hb, beq_self_eq_true]

theorem ofType_of_none {type : Bytes} {bs : List Block} (h : ∀ b ∈ bs, b.type ≠ type) :
    ofType type bs = [] :=
  List.filter_eq_nil_iff.2 fun b hb => by simpa using h b hb

theorem customOf_of_all {bs : List Block} (h : ∀ b ∈ bs, b.type ≠ BlockType.template ∧
    b.type ≠ BlockType.script ∧ b.type ≠ BlockType.style) : customOf bs = bs :=
  List.filter_eq_self.2 fun b hb => by simp [h b hb]

theorem customOf_of_none {bs : List Block} (h : ∀ b ∈ bs, b.type = BlockType.template ∨
    b.type = BlockType.script ∨ b.type = BlockType.style) : customOf bs = [] :=
  List.filter_eq_nil_iff.2 fun b hb => by
    rcases h b hb with h | h | h <;> simp [h]

theorem forall_reread {p : Bytes → Prop} {bs : List Block} (h : ∀ b ∈ bs, p b.type) :
    ∀ b ∈ bs.map Block.reread, p b.type := by
  intro b hb
  obtain ⟨b', hb', rfl⟩ := List.mem_map.1 hb
  exact h b' hb'

theorem Placed.distributed {a : Auxiliary} (h : Placed a) {template : Block}
    (ht : template.type = BlockType.template) :
    Distributed (template :: a.written.map Block.reread) ⟨template, a.reread⟩ := by
  have hscript : ∀ b ∈ a.script.toList.map Block.reread, b.type = BlockType.script :=
    forall_reread (p := (· = BlockType.script)) fun b hb => h.script b (Option.mem_toList.1 hb)
  have hstyles := forall_reread (p := (· = BlockType.style)) h.styles
  have hcustom : ∀ b ∈ (a.custom.filter fun b => b.type != BlockType.extension).map Block.reread,
      b.type ≠ BlockType.template ∧ b.type ≠ BlockType.script ∧ b.type ≠ BlockType.style :=
    forall_reread (p := fun type => type ≠ BlockType.template ∧ type ≠ BlockType.script ∧
      type ≠ BlockType.style) fun b hb => h.custom b (List.mem_filter.1 hb).1
  have hmap : template :: a.written.map Block.reread =
      [template] ++ ((a.custom.filter fun b => b.type != BlockType.extension).map Block.reread ++
        a.script.toList.map Block.reread ++ a.styles.map Block.reread) := by
    simp [Auxiliary.written]
  have hne1 : BlockType.template ≠ BlockType.script := by decide
  have hne2 : BlockType.template ≠ BlockType.style := by decide
  have hne3 : BlockType.script ≠ BlockType.style := by decide
  rw [hmap]
  constructor
  all_goals simp only [ofType_append, customOf_append]
  · rw [ofType_of_all (by simpa using ht), ofType_of_none fun b hb => (hcustom b hb).1,
      ofType_of_none fun b hb => (hscript b hb).symm ▸ hne1.symm,
      ofType_of_none fun b hb => (hstyles b hb).symm ▸ hne2.symm]
    rfl
  · rw [ofType_of_none (by simpa [ht] using hne1), ofType_of_none fun b hb => (hcustom b hb).2.1,
      ofType_of_all hscript, ofType_of_none fun b hb => (hstyles b hb).symm ▸ hne3.symm]
    cases hs : a.script <;> simp [Auxiliary.reread, hs]
  · rw [ofType_of_none (by simpa [ht] using hne2), ofType_of_none fun b hb => (hcustom b hb).2.2,
      ofType_of_none fun b hb => (hscript b hb).symm ▸ hne3, ofType_of_all hstyles]
    simp [Auxiliary.reread]
  · rw [customOf_of_none (by simpa using .inl ht), customOf_of_all hcustom,
      customOf_of_none fun b hb => .inr (.inl (hscript b hb)),
      customOf_of_none fun b hb => .inr (.inr (hstyles b hb))]
    simp [Auxiliary.reread]

theorem assemble_eq (attrs : List Attr) (body : Bytes) (a : Auxiliary) :
    assemble attrs body a =
      (⟨BlockType.template, attrs, body⟩ : Block).source ++ (("\n" : Bytes) ++ a.source) := by
  simp only [assemble, Block.source, List.append_assoc]
  rfl

theorem exists_parts_assemble {attrs : List Attr} {body : Bytes} {a : Auxiliary}
    (ht : Legible ⟨BlockType.template, attrs, body⟩) (ha : ∀ b ∈ a.written, Legible b) :
    ∃ parts, Factors parts (Markup.tokens (assemble attrs body a)) ∧
      blocksOf parts = ⟨BlockType.template, rereadAttrs attrs, body⟩ :: a.written.map Block.reread := by
  obtain ⟨parts, hw, hblocks, hsteps⟩ := exists_parts ha
  obtain ⟨part, hpart, hblock, hfirst⟩ := ht.exists_part (("\n" : Bytes) ++ a.source)
  have htokens := tokensFrom_of_steps (hfirst.trans hsteps)
  rw [← assemble_eq, tokensFrom_nil, List.append_nil] at htokens
  refine ⟨part :: parts, ⟨htokens.symm, List.forall_mem_cons.2 ⟨hpart, hw⟩⟩, ?_⟩
  rw [blocksOf_cons, hblock, hblocks]
  rfl

theorem parse_assemble {attrs : List Attr} {body : Bytes} {a : Auxiliary}
    (ht : Legible ⟨BlockType.template, attrs, body⟩) (ha : ∀ b ∈ a.written, Legible b)
    (hp : Placed a) (hv : ValidDirectives ⟨BlockType.template, rereadAttrs attrs, body⟩) :
    Component.parse .none (assemble attrs body a) =
      .ok ⟨⟨BlockType.template, rereadAttrs attrs, body⟩, a.reread⟩ := by
  obtain ⟨parts, hparts, hblocks⟩ := exists_parts_assemble ht ha
  refine parse_ok_iff.2 ⟨parts, hparts, ?_, hv⟩
  rw [blocksFrom_none, hblocks]
  exact hp.distributed rfl

end Graft
