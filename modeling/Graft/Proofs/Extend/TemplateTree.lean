import Graft.Proofs.Extend.Composition
import Graft.Proofs.Markup.Edited

/-!
# Graft.Proofs.Extend.TemplateTree

The trees of templates, as they are read and as merging changes them, can be written and read back.

* `TemplateTree`: the tree of a template, or one that the edits of a merge lead to.
* `TemplateTree.shaped`, `TemplateTree.sound`: such a tree is shaped as if it had been read.
* `parse_render_templateTree`: what reading it back gives.
-/

namespace Graft.Extend

open Markup

/-- The tree of a template, or one that the edits of a merge lead to. -/
inductive TemplateTree : List Node → Prop where
  | parsed {pad : Padding} {source : Bytes} {c : Component} (h : Component.parse pad source = .ok c) :
      TemplateTree (Markup.parse c.template.content)
  | replaced {forest child : List Node} {point override : Address} (h : TemplateTree forest)
      (hc : TemplateTree child) (hpoint : standsAt pointTag point forest = true)
      (ho : standsAt overrideTag override child = true) :
      TemplateTree (modify (Node.withChildren (childrenAt override child)) point forest)
  | neutralized {forest : List Node} {point : Address} (h : TemplateTree forest)
      (hpoint : standsAt pointTag point forest = true) : TemplateTree (modify neutralize point forest)
  | spliced {forest child spliced : List Node} {all : List Override} (h : TemplateTree forest)
      (hc : TemplateTree child) (hall : overrides child = .ok all)
      (hs : splice all forest = .ok spliced) : TemplateTree spliced

section

variable {named : Bytes → Prop} {held : RawElement → Bytes → Prop}

theorem shaped_neutralize (hn : named neutralTag) {name : Bytes} {attrs : List Attr}
    {children : List Node} (h : Shaped named held (.element name attrs children)) :
    Shaped named held (neutralize (.element name attrs children)) := by
  cases h with
  | element tag hname void raw all =>
    refine .element (isElement_neutral tag) hn (fun hv => ?_) (fun element he => ?_) all
    · exact absurd hv (by decide)
    · rw [show RawElement.ofName? neutralTag = none by decide] at he
      cases he

theorem TemplateTree.shaped {forest : List Node} (h : TemplateTree forest) :
    ∀ node ∈ forest, Shaped (fun _ => True) RawData node := by
  induction h with
  | parsed h => exact shaped_template h trivial fun _ _ => trivial
  | replaced _ _ hpoint _ ih ihc =>
    refine shaped_modify (fun attrs children hshaped => ?_) ih hpoint
    exact hshaped.withChildren (by decide) (by decide) (shaped_childrenAt ihc)
  | neutralized _ hpoint ih =>
    exact shaped_modify (fun attrs children => shaped_neutralize trivial) ih hpoint
  | spliced _ _ hall hs ih ihc =>
    rw [spliced_eq hall hs]
    exact forall_substituteAll (kept_shaped trivial)
      (forall_replacement? (@kept_shaped (fun _ => none) _ _ trivial).children ihc) _ ih

end

theorem TemplateTree.sound {forest : List Node} (h : TemplateTree forest)
    (hp : addresses plaintextName forest = []) : ∀ node ∈ forest, Sound node := by
  intro node hn
  refine (h.shaped node hn).strengthen (p := Lacks plaintextName) (fun hlacks => ?_)
    (lacks_of_addressesFrom hp node hn)
  obtain ⟨hne, hchildren⟩ := hlacks.element
  exact ⟨hne, fun _ _ _ _ hd => hd, hchildren⟩

/-- The tree of a template, however far its merge has come, is written, and read back with its
neighbouring texts joined. -/
theorem parse_render_templateTree {forest : List Node} (h : TemplateTree forest)
    (hp : addresses plaintextName forest = []) (hs : ∀ node ∈ forest, Stable node) :
    ∃ text, render forest = .ok text ∧ Markup.parse text = joinFrom [] forest := by
  have hsound := h.sound hp
  obtain ⟨text, htext, _⟩ := readsAll_of_sound hsound
  exact ⟨text, htext, parse_render hsound hs htext⟩

def pointBody : Bytes := "<P A='1' a=&lt; a><extension-point name=\"n\">x</extension-point></P>"

def overrideBody : Bytes :=
  "<extensions><extension point=\"n\">&amp</i>y<BR></extension></extensions>"

/-- The point with the two texts of the override side by side. -/
def filledPoint : List Node :=
  modify (Node.withChildren (childrenAt [0, 0] (Markup.parse overrideBody))) [0, 0]
    (Markup.parse pointBody)

/-- A point that gets two texts side by side, and is settled. -/
theorem parse_render_settled_point :
    ∃ base child settled,
      Component.parse .line
        "<template><P A='1' a=&lt; a><extension-point name=\"n\">x</extension-point></P></template>" =
          .ok base ∧
      Component.parse .line
        "<template extends=\"b\"><extensions><extension point=\"n\">&amp</i>y<BR></extension></extensions></template>" =
          .ok child ∧
      settled = modify neutralize [0, 0]
        (modify (Node.withChildren (childrenAt [0, 0] (Markup.parse child.template.content))) [0, 0]
          (Markup.parse base.template.content)) ∧
      TemplateTree settled ∧ addresses plaintextName settled = [] ∧ allStable settled = true ∧
      ∃ text, render settled = .ok text ∧ Markup.parse text = joinFrom [] settled := by
  obtain ⟨hbase, hchild, hpoint, hoverride, hfilled, hplain, hstable⟩ :
      Component.parse .line
          "<template><P A='1' a=&lt; a><extension-point name=\"n\">x</extension-point></P></template>" =
        .ok ⟨⟨"template", [], pointBody⟩, ⟨none, [], []⟩⟩ ∧
      Component.parse .line
          "<template extends=\"b\"><extensions><extension point=\"n\">&amp</i>y<BR></extension></extensions></template>" =
        .ok ⟨⟨"template", [⟨"extends", "b"⟩], overrideBody⟩, ⟨none, [], []⟩⟩ ∧
      standsAt pointTag [0, 0] (Markup.parse pointBody) = true ∧
      standsAt overrideTag [0, 0] (Markup.parse overrideBody) = true ∧
      standsAt pointTag [0, 0] filledPoint = true ∧
      addresses plaintextName (modify neutralize [0, 0] filledPoint) = [] ∧
      allStable (modify neutralize [0, 0] filledPoint) = true := by
    decide +kernel
  have hreplaced : TemplateTree filledPoint :=
    .replaced (.parsed hbase) (.parsed hchild) hpoint hoverride
  have htree : TemplateTree (modify neutralize [0, 0] filledPoint) := .neutralized hreplaced hfilled
  exact ⟨_, _, _, hbase, hchild, rfl, htree, hplain, hstable,
    parse_render_templateTree htree hplain ((allStable_iff _).1 hstable)⟩

end Graft.Extend
