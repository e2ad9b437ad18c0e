import Graft.Proofs.Component.Shifted
import Graft.Proofs.Component.Template
import Graft.Proofs.Extend.Settled
import Mathlib.Control.Monad.Basic
import Mathlib.Tactic.FinCases

/-!
# Graft.Proofs.Extend.Merged

A merged level is a component again, as long as the start tags of the blocks it takes over end at
their own `>`.

* `exists_of_merge`: what a merge does.
* `legible_template`: a written tree in the tags of a template.
* `Restored`: a merged level as it is read back.
* `merge_restored_iff`: when it is.
-/

namespace Graft.Extend

open Markup

theorem exists_of_merge {child base : Component} {m : Bytes} (h : merge child base = .ok m) :
    ∃ all forest body, overrides (Markup.parse child.template.content) = .ok all ∧
      splice all (Markup.parse base.template.content) = .ok forest ∧ render forest = .ok body ∧
      m = assemble [⟨Directive.extendable, []⟩] body child.auxiliary := by
  unfold merge at h
  split at h
  · cases h
  rename_i all hall
  split at h
  · cases h
  rename_i forest hforest
  split at h
  · cases h
  rename_i body hbody
  cases h
  exact ⟨all, forest, body, hall, hforest, hbody, rfl⟩

theorem sound_substituteAll {child base : List Node} (hchild : ∀ node ∈ child, Sound node)
    (hbase : ∀ node ∈ base, Sound node) :
    ∀ node ∈ substituteAll (replacement? child) base, Sound node :=
  forall_substituteAll kept_sound
    (forall_replacement? (@kept_sound fun _ => none).children hchild) base hbase

theorem spliced_eq {child base spliced : List Node} {all : List Override}
    (hall : overrides child = .ok all) (hs : splice all base = .ok spliced) :
    spliced = substituteAll (replacement? child) base := by
  rw [splice_eq hs, find?_overrides hall]

theorem legible_template {forest : List Node} {body : Bytes} (hs : ∀ node ∈ forest, Sound node)
    (hr : render forest = .ok body) {attrs : List Attr}
    (hattrs : attrs = [] ∨ attrs = [⟨Directive.extendable, []⟩]) :
    Legible ⟨BlockType.template, attrs, body⟩ := by
  obtain ⟨text, htext, hreads⟩ := readsAll_of_sound hs
  rw [hr] at htext
  cases htext
  have hname : IsTagName BlockType.template := ⟨forall_mem_of_all (by decide), by decide⟩
  have hkey : ∀ a ∈ attrs, IsKey a.key := by
    rcases hattrs with rfl | rfl
    · simp
    · rw [List.forall_mem_singleton]
      exact ⟨by decide, forall_mem_of_all (by decide)⟩
  have heq : ∀ a ∈ attrs, a.key.head? ≠ some Byte.eq := by
    rcases hattrs with rfl | rfl
    · simp
    · rw [List.forall_mem_singleton]
      decide
  have hmode : contentMode BlockType.template = .markup := by decide
  exact ⟨hname, hkey, closesItself_of_keys hkey heq, enclosed_of_readsAll hname hmode hreads⟩

theorem rereadAttrs_extendable :
    rereadAttrs [⟨Directive.extendable, []⟩] = [⟨Directive.extendable, []⟩] := by
  rw [rereadAttrs_eq]
  · rfl
  · rw [List.forall_mem_singleton]
    exact ⟨by decide, forall_mem_of_all (by decide)⟩
  · exact List.pairwise_singleton ..
  · rw [List.forall_mem_singleton]
    decide

theorem exists_tag_of_block {pad : Padding} {source : Bytes} {c : Component}
    (h : Component.parse pad source = .ok c) {b : Block} (hb : b ∈ c.blocks) :
    ∃ t ∈ Markup.tokens source, tagName t = b.type := by
  obtain ⟨parts, hparts, hdist, _⟩ := parse_ok_iff.1 h
  obtain ⟨part, hpart, n, hn⟩ := exists_of_mem_blocksFrom (hdist.mem hb)
  have htoken {t : Token} (ht : t ∈ part.tokens) : t ∈ Markup.tokens source := by
    rw [← hparts.tokens]
    exact List.mem_flatMap.2 ⟨part, hpart, ht⟩
  cases part with
  | gap t => cases hn
  | single t => exact ⟨t, htoken (List.mem_singleton_self t), by rw [← Option.some.inj hn]⟩
  | pair start inner stop =>
    exact ⟨start, htoken (List.mem_cons_self ..), by rw [← Option.some.inj hn]⟩

theorem soundBlock_of_written {pad : Padding} {source : Bytes} {c : Component}
    (h : Component.parse pad source = .ok c)
    (hplain : ∀ t ∈ Markup.tokens source, tagName t ≠ plaintextName) :
    ∀ b ∈ c.auxiliary.written, SoundBlock b := by
  intro b hb
  have hmem : b ∈ c.blocks := by
    simp only [Auxiliary.written, List.mem_append, List.mem_filter] at hb
    simp only [Component.blocks, List.mem_cons, List.mem_append]
    tauto
  obtain ⟨t, ht, hname⟩ := exists_tag_of_block h hmem
  exact soundBlock_of_parse h hmem (hname ▸ hplain t ht)

/-! ## Reading a merged level -/

/-- A merged level as it is read back: the marked template with the written tree, and the written
blocks of the child, each kind in its order and all of them in the order they are written. -/
structure Restored (m body : Bytes) (a : Auxiliary) (c : Component) : Prop where
  parsed : Component.parse .none m = .ok c
  template : c.template = ⟨BlockType.template, [⟨Directive.extendable, []⟩], body⟩
  script : SameBlocks c.auxiliary.script.toList a.script.toList
  styles : SameBlocks c.auxiliary.styles a.styles
  custom : SameBlocks c.auxiliary.custom (a.custom.filter fun b => b.type != BlockType.extension)
  order : ∀ parts, Factors parts (tokens m) → SameBlocks (blocksOf parts) (c.template :: a.written)

theorem validDirectives_extendable (body : Bytes) :
    ValidDirectives ⟨BlockType.template, [⟨Directive.extendable, []⟩], body⟩ := by
  constructor
  · intro val hval
    cases hval
  · intro val hval
    cases hval
    exact .inl rfl

theorem restored_assemble {body : Bytes} {a : Auxiliary}
    (ht : Legible ⟨BlockType.template, [⟨Directive.extendable, []⟩], body⟩) (hp : Placed a)
    (ha : ∀ b ∈ a.written, Legible b) :
    ∃ c, Restored (assemble [⟨Directive.extendable, []⟩] body a) body a c := by
  obtain ⟨parts, hparts, hblocks⟩ := exists_parts_assemble ht ha
  have hparse := parse_assemble ht ha hp (by
    rw [rereadAttrs_extendable]
    exact validDirectives_extendable body)
  rw [rereadAttrs_extendable] at hblocks hparse
  refine ⟨_, hparse, rfl, ?_, sameBlocks_reread _, sameBlocks_reread _, ?_⟩
  · cases hs : a.script <;> simp [Auxiliary.reread, hs, SameBlocks, Block.reread]
  · intro parts' hparts'
    rw [hparts'.unique hparts, hblocks]
    exact congrArg (_ :: ·) (sameBlocks_reread a.written)

/-- Behind the template of a written component stand the blocks beside it. -/
theorem readsAs_of_factors {attrs : List Attr} {body : Bytes} {a : Auxiliary} {parts : List Part}
    {b : Block} (ht : Legible ⟨BlockType.template, attrs, body⟩)
    (h : Factors parts (tokens (assemble attrs body a)))
    (hsame : SameBlocks (blocksOf parts) (b :: a.written)) :
    ReadsAs (("\n" : Bytes) ++ a.source) a.written := by
  obtain ⟨part, hpart, hblock, hfirst⟩ := ht.exists_part (("\n" : Bytes) ++ a.source)
  rw [← assemble_eq] at hfirst
  have htokens := h.tokens.trans (tokensFrom_of_steps hfirst)
  cases parts with
  | nil => cases hsame
  | cons q parts =>
    obtain ⟨hq, hw⟩ := List.forall_mem_cons.1 h.wellFormed
    rw [List.flatMap_cons] at htokens
    obtain ⟨rfl, hrest⟩ := Part.unique hq hpart htokens
    obtain ⟨mode, hsteps⟩ := steps_tokensFrom .markup (("\n" : Bytes) ++ a.source)
    rw [← hrest] at hsteps
    rw [SameBlocks, blocksOf_cons, hblock] at hsame
    exact ⟨parts, mode, _, hw, hsteps, (List.cons.inj hsame).2⟩

/-- A merged level is read back as the component it was written from exactly if the start tag of
every block of the child that is written ends at its own `>`. -/
theorem merge_restored_iff {pad : Padding} {source baseSource m : Bytes} {child base : Component}
    (hchild : Component.parse pad source = .ok child)
    (hbase : Component.parse .none baseSource = .ok base)
    (hplain : ∀ t ∈ tokens source ++ tokens baseSource, tagName t ≠ plaintextName)
    (h : merge child base = .ok m) :
    ∃ all forest body, overrides (Markup.parse child.template.content) = .ok all ∧
      splice all (Markup.parse base.template.content) = .ok forest ∧ render forest = .ok body ∧
      (∀ c, Component.parse .none m = .ok c →
        c.template = ⟨BlockType.template, [⟨Directive.extendable, []⟩], body⟩) ∧
      ((∃ c, Restored m body child.auxiliary c) ↔
        ∀ b ∈ child.auxiliary.written, ClosesItself b.attrs) := by
  obtain ⟨all, forest, body, hall, hforest, hbody, rfl⟩ := exists_of_merge h
  have hsound : ∀ node ∈ forest, Sound node := by
    rw [spliced_eq hall hforest]
    exact sound_substituteAll
      (sound_template hchild fun t ht => hplain t (List.mem_append_left _ ht))
      (sound_template hbase fun t ht => hplain t (List.mem_append_right _ ht))
  have ht := legible_template hsound hbody (.inr rfl)
  have hblock := soundBlock_of_written hchild fun t ht => hplain t (List.mem_append_left _ ht)
  refine ⟨all, forest, body, hall, hforest, hbody, ?_, ?_, ?_⟩
  · intro c hc
    have hbegins := beginsWith_assemble ht child.auxiliary
    rw [rereadAttrs_extendable] at hbegins
    exact template_of_beginsWith hbegins rfl hc
  · rintro ⟨c, hc⟩
    obtain ⟨parts, hparts, _⟩ := parse_ok_iff.1 hc.parsed
    have hreads := readsAs_of_factors ht hparts (hc.order parts hparts)
    by_cases hnil : child.auxiliary.written = []
    · simp [hnil]
    · rw [Auxiliary.source, joinWith_source hnil] at hreads
      exact closesItself_of_readsAs hblock hreads
  · intro hcloses
    obtain ⟨_, _, hdist, _⟩ := parse_ok_iff.1 hchild
    exact restored_assemble ht hdist.placed.2 fun b hb => (hblock b hb).legible (hcloses b hb)

theorem merge_restored_docs :
    ∃ child base m body c,
      Component.parse .line
        "<template extends=\"b\"></template>\n<docs a>d</docs><extension/><style>s</style>" = .ok child ∧
      Component.parse .none "<template><extension-point name=\"a\">x</extension-point></template>" =
        .ok base ∧
      merge child base = .ok m ∧
      m = "<template extendable><template>x</template></template>\n<docs a>\nd</docs>\n<style>\ns</style>" ∧
      Restored m body child.auxiliary c := by
  obtain ⟨hchild, hbase, hplain⟩ :
      Component.parse .line
          "<template extends=\"b\"></template>\n<docs a>d</docs><extension/><style>s</style>" =
        .ok ⟨⟨"template", [⟨"extends", "b"⟩], []⟩, ⟨none, [⟨"style", [], "\ns"⟩],
          [⟨"docs", [⟨"a", []⟩], "\nd"⟩, ⟨"extension", [], []⟩]⟩⟩ ∧
      Component.parse .none
          "<template><extension-point name=\"a\">x</extension-point></template>" =
        .ok ⟨⟨"template", [], "<extension-point name=\"a\">x</extension-point>"⟩,
          ⟨none, [], []⟩⟩ ∧
      ∀ t ∈ tokens
          "<template extends=\"b\"></template>\n<docs a>d</docs><extension/><style>s</style>" ++
        tokens "<template><extension-point name=\"a\">x</extension-point></template>",
        tagName t ≠ plaintextName := by
    decide +kernel
  have hmerge : merge
      ⟨⟨"template", [⟨"extends", "b"⟩], []⟩, ⟨none, [⟨"style", [], "\ns"⟩],
        [⟨"docs", [⟨"a", []⟩], "\nd"⟩, ⟨"extension", [], []⟩]⟩⟩
      ⟨⟨"template", [], "<extension-point name=\"a\">x</extension-point>"⟩, ⟨none, [], []⟩⟩ =
        .ok "<template extendable><template>x</template></template>\n<docs a>\nd</docs>\n<style>\ns</style>" := by
    decide +kernel
  obtain ⟨_, _, body, _, _, _, _, hiff⟩ :=
    merge_restored_iff hchild hbase hplain hmerge
  obtain ⟨c, hc⟩ := hiff.2 (by
    intro b hb
    fin_cases hb
    · exact ⟨[("a", [])], by decide +kernel⟩
    · exact ⟨[], by decide +kernel⟩)
  exact ⟨_, _, _, body, c, hchild, hbase, hmerge, rfl, hc⟩

/-- A key that stands alone and a key that begins with `=` are read back as one attribute with a
value, here one that has no end. -/
theorem merge_unterminated :
    ∃ child base m,
      Component.parse .none
        "<template extends=\"b\"></template><docs a/=\"x></docs><i18n k=\"v\"></i18n>" = .ok child ∧
      Component.parse .none "<template><extension-point name=\"a\">x</extension-point></template>" =
        .ok base ∧
      (∀ t ∈ tokens "<template extends=\"b\"></template><docs a/=\"x></docs><i18n k=\"v\"></i18n>" ++
        tokens "<template><extension-point name=\"a\">x</extension-point></template>",
        tagName t ≠ plaintextName) ∧
      merge child base = .ok m ∧
      m = "<template extendable><template>x</template></template>\n<docs a =\"x></docs>\n<i18n k=\"v\"></i18n>" ∧
      Component.parse .none m = .error (.unterminated "docs" 2) :=
  ⟨⟨⟨"template", [⟨"extends", "b"⟩], []⟩,
      ⟨none, [], [⟨"docs", [⟨"a", []⟩, ⟨"=\"x", []⟩], []⟩, ⟨"i18n", [⟨"k", "v"⟩], []⟩]⟩⟩,
    ⟨⟨"template", [], "<extension-point name=\"a\">x</extension-point>"⟩, ⟨none, [], []⟩⟩,
    "<template extendable><template>x</template></template>\n<docs a =\"x></docs>\n<i18n k=\"v\"></i18n>",
    by decide +kernel⟩

end Graft.Extend
