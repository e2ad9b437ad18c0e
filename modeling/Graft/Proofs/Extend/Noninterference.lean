import Graft.Proofs.Extend.Interchanged
import Graft.Proofs.Extend.Outcome
import Graft.Proofs.Extend.Trail
import Graft.Proofs.Extend.Untouched

/-!
# Graft.Proofs.Extend.Noninterference

Of an ancestor only the template counts: its base and its content. Its other blocks, its other
attributes and what stands between its blocks make no difference, as long as the start tags of its
blocks end at their own `>`.

* `rereadAlike_of_closes`: blocks that are written and read back.
* `SameTemplate`: two sources with the same template.
* `resolve_noninterference`: two sets of files.
-/

namespace Graft.Extend

open Markup

variable {ε : Type}

/-- Blocks whose start tags end at their own `>` are in the way of a merged level only if one of
them is a `plaintext`. -/
theorem rereadAlike_of_closes {pad pad' : Padding} {source source' : Bytes} {c c' : Component}
    (hc : Component.parse pad source = .ok c) (hc' : Component.parse pad' source' = .ok c')
    (hcloses : ∀ b ∈ c.auxiliary.written, ClosesItself b.attrs)
    (hcloses' : ∀ b ∈ c'.auxiliary.written, ClosesItself b.attrs)
    (hplain : (∀ b ∈ c.auxiliary.written, b.type ≠ plaintextName) ↔
      ∀ b ∈ c'.auxiliary.written, b.type ≠ plaintextName) :
    RereadAlike c.auxiliary c'.auxiliary := by
  intro forest body hs hr
  constructor
  · rintro ⟨read, hread⟩
    have hsound := (template_of_parse_merged hs hr hread).1
    have hne := (read_of_parse_merged hc hsound hr hcloses hread).1
    exact ⟨_, parse_merged hc' hsound hr (hplain.1 hne) hcloses'⟩
  · rintro ⟨read, hread⟩
    have hsound := (template_of_parse_merged hs hr hread).1
    have hne := (read_of_parse_merged hc' hsound hr hcloses' hread).1
    exact ⟨_, parse_merged hc hsound hr (hplain.2 hne) hcloses⟩

/-- Two sources that name the same base and have the same template content, with something that
holds of all the blocks they hand on. -/
def SameTemplate (held : Block → Prop) (source source' : Bytes) : Prop :=
  ∃ c c', Component.parse .none source = .ok c ∧ Component.parse .none source' = .ok c' ∧
    c.template.extends? = c'.template.extends? ∧ c.template.content = c'.template.content ∧
    (∀ b ∈ c.auxiliary.written, held b) ∧ ∀ b ∈ c'.auxiliary.written, held b

/-- A block that can be written and read back. -/
def Returns (b : Block) : Prop := b.type ≠ plaintextName ∧ ClosesItself b.attrs

theorem sourceAlike_of_sameTemplate {source source' : Bytes}
    (h : SameTemplate Returns source source') (pad : Padding) :
    SourceAlike pad pad source source' := by
  obtain ⟨c, c', hc, hc', hbase, hcontent, hheld, hheld'⟩ := h
  obtain ⟨d, hd⟩ := exists_parse hc pad
  obtain ⟨d', hd'⟩ := exists_parse hc' pad
  have hblocks : ∀ b ∈ d.auxiliary.written, b.type ≠ plaintextName ∧ ClosesItself b.attrs :=
    forall_written (p := fun type attrs => type ≠ plaintextName ∧ ClosesItself attrs) hc hd hheld
  have hblocks' : ∀ b ∈ d'.auxiliary.written, b.type ≠ plaintextName ∧ ClosesItself b.attrs :=
    forall_written (p := fun type attrs => type ≠ plaintextName ∧ ClosesItself attrs) hc' hd' hheld'
  rw [SourceAlike, hd, hd']
  refine .ok ⟨?_, ?_, rereadAlike_of_closes hd hd' (fun b hb => (hblocks b hb).2)
    (fun b hb => (hblocks' b hb).2) ⟨fun _ b hb => (hblocks' b hb).1, fun _ b hb => (hblocks b hb).1⟩⟩
  · rw [template_eq hd hc, template_eq hd' hc', hbase]
  · rw [template_eq hd hc, template_eq hd' hc', hcontent]

theorem ResolvedAlike.eq {pad : Padding} {source text text' : Bytes}
    (h : ResolvedAlike pad pad source source text text') : text = text' := by
  cases h with
  | last => rfl
  | merged hc hc' =>
    rw [hc] at hc'
    cases hc'
    rfl

/-- Files that have the same templates resolve an entry in the same way: they come to the same text
or fail for the same kind of reason, and they are asked for the same paths. -/
theorem resolve_noninterference {content content' : Bytes → Except ε Bytes}
    (h : ∀ path, Alike Anyhow (SameTemplate Returns) (content path) (content' path))
    (opts : Options) (path source : Bytes) :
    let files := Files.ofContent content
    let files' := Files.ofContent content'
    Alike SameKind Eq (resolve files opts path source ()).1 (resolve files' opts path source ()).1 ∧
      (resolve files opts path source ()).2 = (resolve files' opts path source ()).2 ∧
      (resolve files.logged opts path source ([], ())).2 =
        (resolve files'.logged opts path source ([], ())).2 ∧
      Alike SameKind Eq (transform files opts path source ()).code
        (transform files' opts path source ()).code ∧
      (transform files opts path source ()).chain = (transform files' opts path source ()).chain ∧
      (transform files opts path source ()).dependencies =
        (transform files' opts path source ()).dependencies := by
  intro files files'
  have hfiles : FilesAlike opts.padding opts.padding files files' := by
    intro base state
    exact ⟨rfl, (h base).imp (fun _ _ => id) fun _ _ hsame =>
      sourceAlike_of_sameTemplate hsame opts.padding⟩
  obtain ⟨hwalk, hout⟩ :=
    resolve_alike hfiles (.refl opts.padding source) opts.maxDepth path ()
  have hsame : Alike SameKind Eq (resolve files opts path source ()).1
      (resolve files' opts path source ()).1 :=
    hout.imp (fun _ _ => id) fun _ _ hresolved => hresolved.eq
  refine ⟨hsame, hwalk, ?_, ?_, by rw [transform_chain, transform_chain, hwalk],
    by rw [transform_dependencies, transform_dependencies, hwalk]⟩
  · rw [logged_resolve, logged_resolve]
    exact congrArg (fun walk => walk.withState (requests walk.chain, walk.state)) hwalk
  · refine code_alike hsame fun text text' htext => ?_
    rw [htext]
    cases finalize text' with
    | error e => exact .error rfl
    | ok code => exact .ok rfl

/-- A layout with blocks of its own. -/
def blocksLayout (blocks : Bytes) : Bytes := "<template extends=\"frame\"></template>" ++ blocks

def layoutContent (blocks : Bytes) : Bytes → Except Unit Bytes := fun path =>
  .ok (if path = ("/layout" : Bytes) then blocksLayout blocks else frameSource)

theorem sameTemplate_layoutContent {held : Block → Prop} {blocks blocks' : Bytes}
    (h : SameTemplate held (blocksLayout blocks) (blocksLayout blocks')) (path : Bytes) :
    Alike Anyhow (SameTemplate held) (layoutContent blocks path) (layoutContent blocks' path) := by
  refine .ok ?_
  split
  · exact h
  · have hframe : Component.parse .none frameSource = .ok ⟨⟨"template", [],
        "<p><extension-point name=\"a\">x</extension-point></p>"⟩, ⟨none, [], []⟩⟩ := by
      decide +kernel
    exact ⟨_, _, hframe, hframe, rfl, rfl, List.forall_mem_nil _, List.forall_mem_nil _⟩

theorem resolve_noninterference_layout :
    (∀ path, Alike Anyhow (SameTemplate Returns)
      (layoutContent "<docs k=\"v\"></docs>" path) (layoutContent [] path)) ∧
    Alike SameKind Eq
      (transform (.ofContent (layoutContent "<docs k=\"v\"></docs>")) ⟨2, .line⟩ "/page"
        (bareLevel "layout").source ()).code
      (transform (.ofContent (layoutContent [])) ⟨2, .line⟩ "/page"
        (bareLevel "layout").source ()).code := by
  have hsame : SameTemplate Returns (blocksLayout "<docs k=\"v\"></docs>") (blocksLayout []) := by
    obtain ⟨hnoted, hbare⟩ :
        Component.parse .none (blocksLayout "<docs k=\"v\"></docs>") =
            .ok ⟨⟨"template", [⟨"extends", "frame"⟩], []⟩,
              ⟨none, [], [⟨"docs", [⟨"k", "v"⟩], []⟩]⟩⟩ ∧
          Component.parse .none (blocksLayout []) =
            .ok ⟨⟨"template", [⟨"extends", "frame"⟩], []⟩, ⟨none, [], []⟩⟩ := by
      decide +kernel
    refine ⟨_, _, hnoted, hbare, rfl, rfl, fun b hb => ?_, List.forall_mem_nil _⟩
    fin_cases hb
    exact ⟨by decide +kernel, [("k", "v")], by decide +kernel⟩
  have halike := sameTemplate_layoutContent hsame
  obtain ⟨_, _, _, hcode, _⟩ :=
    resolve_noninterference halike ⟨2, .line⟩ "/page" (bareLevel "layout").source
  exact ⟨halike, hcode⟩

/-- A block of an ancestor decides whether its chain is resolved: a key that stands alone and a key
that begins with `=` are written as one attribute with a value that has no end. -/
theorem resolve_interference :
    (∀ path, Alike Anyhow (SameTemplate fun b => b.type ≠ plaintextName)
      (layoutContent "<docs a/=\"x></docs><i18n k=\"v\"></i18n>" path) (layoutContent [] path)) ∧
    (resolve (.ofContent (layoutContent "<docs a/=\"x></docs><i18n k=\"v\"></i18n>")) ⟨2, .none⟩
      "/page" (bareLevel "layout").source ()).1.toOption = none ∧
    (resolve (.ofContent (layoutContent [])) ⟨2, .none⟩
      "/page" (bareLevel "layout").source ()).1.toOption =
        some "<template extendable><p><template>x</template></p></template>\n" := by
  obtain ⟨hnoted, hbare, hheld, hresolves⟩ :
      Component.parse .none (blocksLayout "<docs a/=\"x></docs><i18n k=\"v\"></i18n>") =
          .ok ⟨⟨"template", [⟨"extends", "frame"⟩], []⟩, ⟨none, [],
            [⟨"docs", [⟨"a", []⟩, ⟨"=\"x", []⟩], []⟩, ⟨"i18n", [⟨"k", "v"⟩], []⟩]⟩⟩ ∧
        Component.parse .none (blocksLayout []) =
          .ok ⟨⟨"template", [⟨"extends", "frame"⟩], []⟩, ⟨none, [], []⟩⟩ ∧
        (∀ b ∈ [⟨"docs", [⟨"a", []⟩, ⟨"=\"x", []⟩], []⟩, ⟨"i18n", [⟨"k", "v"⟩], []⟩],
          Block.type b ≠ plaintextName) ∧
        (resolve (.ofContent (layoutContent "<docs a/=\"x></docs><i18n k=\"v\"></i18n>")) ⟨2, .none⟩
            "/page" (bareLevel "layout").source ()).1.toOption = none ∧
        (resolve (.ofContent (layoutContent [])) ⟨2, .none⟩
            "/page" (bareLevel "layout").source ()).1.toOption =
          some "<template extendable><p><template>x</template></p></template>\n" := by
    decide +kernel
  exact ⟨sameTemplate_layoutContent
    ⟨_, _, hnoted, hbare, rfl, rfl, hheld, List.forall_mem_nil _⟩, hresolves⟩

end Graft.Extend
