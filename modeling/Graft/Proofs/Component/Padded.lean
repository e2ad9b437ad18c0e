import Graft.Proofs.Component.Template

/-!
# Graft.Proofs.Component.Padded

One source read with and without padding. The blocks are the same; only filler stands in front of
their contents.

* `countedFrom`: the blocks of parts, each with the line feeds before its content.
* `Block.padded`: a block with its filler.
* `Auxiliary.ofCounted`: counted blocks, each kind in its order.
* `parse_padded`: what a source is read as, whatever the padding.
-/

namespace Graft

open Markup

/-- The block of a part and the line feeds before its content, if `feeds` of them stand before the
part. For a self-closing block there is nothing to count. -/
def Part.counted? (feeds : Nat) : Part → Option (Block × Nat)
  | gap _ => none
  | single t => some (⟨tagName t, tagAttrs t, []⟩, 0)
  | pair start inner _ =>
    some (⟨tagName start, tagAttrs start, slices inner⟩, feeds + start.raw.lineFeeds)

/-- The blocks of parts, each with the line feeds before its content. -/
def countedFrom : Nat → List Part → List (Block × Nat)
  | _, [] => []
  | feeds, part :: parts =>
    (part.counted? feeds).toList ++ countedFrom (feeds + (slices part.tokens).lineFeeds) parts

/-- A block with `feeds` line feeds before its content, padded. -/
def Block.padded (pad : Padding) (b : Block) (feeds : Nat) : Block :=
  { b with content := padding pad b.type b.attrs feeds ++ b.content }

theorem padding_zero (pad : Padding) (type : Bytes) (attrs : List Attr) :
    padding pad type attrs 0 = [] := by
  unfold padding
  split
  · rfl
  · split <;> rfl

theorem Part.padded?_eq (pad : Padding) (feeds : Nat) (part : Part) :
    part.padded? pad feeds = (part.counted? feeds).map fun p => p.1.padded pad p.2 := by
  cases part with
  | gap t => rfl
  | single t => simp [padded?, counted?, Block.padded, padding_zero]
  | pair start inner stop => rfl

theorem blocksFrom_eq (pad : Padding) (feeds : Nat) (parts : List Part) :
    blocksFrom pad feeds parts = (countedFrom feeds parts).map fun p => p.1.padded pad p.2 := by
  induction parts generalizing feeds with
  | nil => rfl
  | cons part parts ih =>
    rw [blocksFrom, countedFrom, List.map_append, ih, part.padded?_eq]
    cases part.counted? feeds <;> rfl

/-! ## Kinds -/

def countedOf (type : Bytes) (counted : List (Block × Nat)) : List (Block × Nat) :=
  counted.filter fun p => p.1.type == type

def countedCustom (counted : List (Block × Nat)) : List (Block × Nat) :=
  counted.filter fun p =>
    p.1.type != BlockType.template && p.1.type != BlockType.script && p.1.type != BlockType.style

/-- What `f` makes of counted blocks, each kind in its order. -/
def Auxiliary.ofCounted (f : Block × Nat → Block) (counted : List (Block × Nat)) : Auxiliary where
  script := (countedOf BlockType.script counted).head?.map f
  styles := (countedOf BlockType.style counted).map f
  custom := (countedCustom counted).map f

/-- The counted blocks that are written, in the order they are written. -/
def countedWritten (counted : List (Block × Nat)) : List (Block × Nat) :=
  (countedCustom counted).filter (fun p => p.1.type != BlockType.extension) ++
    countedOf BlockType.script counted ++ countedOf BlockType.style counted

section

variable {f : Block × Nat → Block}

/-- Blocks may be sorted by type before or after `f`, if it keeps their types. -/
theorem filter_map_type (hf : ∀ p, (f p).type = p.1.type) (test : Bytes → Bool)
    (counted : List (Block × Nat)) :
    (counted.map f).filter (fun b => test b.type) =
      (counted.filter fun p => test p.1.type).map f := by
  rw [List.filter_map]
  congr 1
  exact List.filter_congr fun p _ => by rw [Function.comp_apply, hf]

theorem ofType_map (hf : ∀ p, (f p).type = p.1.type) (type : Bytes) (counted : List (Block × Nat)) :
    ofType type (counted.map f) = (countedOf type counted).map f :=
  filter_map_type hf (· == type) counted

theorem customOf_map (hf : ∀ p, (f p).type = p.1.type) (counted : List (Block × Nat)) :
    customOf (counted.map f) = (countedCustom counted).map f :=
  filter_map_type hf (fun type => type != BlockType.template && type != BlockType.script &&
    type != BlockType.style) counted

theorem toList_script {counted : List (Block × Nat)}
    (h : (countedOf BlockType.script counted).length ≤ 1) :
    (Auxiliary.ofCounted f counted).script.toList = (countedOf BlockType.script counted).map f := by
  rw [Auxiliary.ofCounted]
  match countedOf BlockType.script counted, h with
  | [], _ => rfl
  | [p], _ => rfl

theorem written_ofCounted (hf : ∀ p, (f p).type = p.1.type) {counted : List (Block × Nat)}
    (h : (countedOf BlockType.script counted).length ≤ 1) :
    (Auxiliary.ofCounted f counted).written = (countedWritten counted).map f := by
  rw [Auxiliary.written, toList_script h, countedWritten, List.map_append, List.map_append,
    Auxiliary.ofCounted]
  dsimp only
  rw [filter_map_type hf (· != BlockType.extension)]

end

/-! ## Reading with any padding -/

theorem mem_blocks {c : Component} {b : Block} (h : b ∈ c.auxiliary.written) : b ∈ c.blocks := by
  simp only [Auxiliary.written, List.mem_append, List.mem_filter] at h
  simp only [Component.blocks, List.mem_cons, List.mem_append]
  rcases h with (h | h) | h
  · exact .inr (.inl (.inl h.1))
  · exact .inr (.inl (.inr h))
  · exact .inr (.inr h)

theorem Block.type_padded (pad : Padding) (p : Block × Nat) : (p.1.padded pad p.2).type = p.1.type :=
  rfl

theorem Block.padded_template {b : Block} (h : b.type = BlockType.template) (pad : Padding) (n : Nat) :
    b.padded pad n = b := by
  have hpad : padding pad b.type b.attrs n = [] := by
    rw [h]
    cases pad <;> rfl
  rw [Block.padded, hpad]
  rfl

/-- A source is read with any padding or with none, as the same counted blocks. -/
theorem parse_padded {pad : Padding} {source : Bytes} {c : Component}
    (h : Component.parse pad source = .ok c) :
    ∃ parts, Factors parts (Markup.tokens source) ∧
      (countedOf BlockType.script (countedFrom 0 parts)).length ≤ 1 ∧
      ∀ pad', Component.parse pad' source =
        .ok ⟨c.template, .ofCounted (fun p => p.1.padded pad' p.2) (countedFrom 0 parts)⟩ := by
  obtain ⟨parts, hparts, hdist, hvalid⟩ := parse_ok_iff.1 h
  rw [blocksFrom_eq] at hdist
  have hscript : (countedOf BlockType.script (countedFrom 0 parts)).length ≤ 1 := by
    have hlen := congrArg List.length hdist.script
    rw [ofType_map (Block.type_padded pad), List.length_map] at hlen
    rw [hlen]
    cases c.auxiliary.script <;> simp
  refine ⟨parts, hparts, hscript, fun pad' => parse_ok_iff.2 ⟨parts, hparts, ?_, hvalid⟩⟩
  rw [blocksFrom_eq]
  have htype := Block.type_padded pad'
  refine ⟨?_, ?_, ofType_map htype _ _, customOf_map htype _⟩
  · rw [← hdist.template, ofType_map htype, ofType_map (Block.type_padded pad)]
    refine List.map_congr_left fun p hp => ?_
    have ht : p.1.type = BlockType.template := by simpa using (List.mem_filter.1 hp).2
    rw [Block.padded_template ht, Block.padded_template ht]
  · rw [ofType_map htype, toList_script hscript]

/-- The types and attributes of written blocks do not depend on the padding. -/
theorem forall_written {p : Bytes → List Attr → Prop} {pad pad' : Padding} {source : Bytes}
    {c c' : Component} (h : Component.parse pad source = .ok c)
    (h' : Component.parse pad' source = .ok c') (hp : ∀ b ∈ c.auxiliary.written, p b.type b.attrs) :
    ∀ b ∈ c'.auxiliary.written, p b.type b.attrs := by
  obtain ⟨parts, _, hscript, hparse⟩ := parse_padded h
  rw [hparse] at h h'
  cases h'
  rw [← Except.ok.inj h] at hp
  dsimp only at hp ⊢
  rw [written_ofCounted (Block.type_padded _) hscript, List.forall_mem_map] at hp ⊢
  exact hp

/-- Whether a source is read does not depend on the padding. -/
theorem exists_parse {pad : Padding} {source : Bytes} {c : Component}
    (h : Component.parse pad source = .ok c) (pad' : Padding) :
    ∃ c', Component.parse pad' source = .ok c' := by
  obtain ⟨_, _, _, hparse⟩ := parse_padded h
  exact ⟨_, hparse pad'⟩

end Graft
