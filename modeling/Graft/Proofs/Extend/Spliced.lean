import Graft.Proofs.Extend.Followed

/-!
# Graft.Proofs.Extend.Spliced

What merging comes to, told from the trees of the child and the base.

* `HasUnaddressed`, `HasNameless`: an override without a point, a point without a name.
* `merge_substitutes`: what is written is the base with its points substituted.
* `MergeTree`, `FinishTree`: the trees on the way to it, and when the last points are closed.
* `merge_fails_iff`: when merging fails and why; none of the trees is why.
-/

namespace Graft.Extend

open Markup

variable {ε : Type}

/-! ## Names -/

/-- A node without a key, or with nothing for it. -/
def Nameless (key : Bytes) (node : Node) : Prop := node.attr? key = none ∨ node.attr? key = some []

theorem usable_eq_none_iff {name : Option Bytes} :
    usable name = none ↔ name = none ∨ name = some [] := by
  cases name with
  | none => simp [usable]
  | some name => cases name <;> simp [usable]

theorem nameless_iff {key : Bytes} {node : Node} : Nameless key node ↔ usable (node.attr? key) = none :=
  usable_eq_none_iff.symm

/-- An override in the first container does not say which point it is for. -/
def HasUnaddressed (forest : List Node) : Prop :=
  ∃ container more, topLevel (.named containerTag) forest = container :: more ∧
    ∃ node ∈ container.children, node.isElement overrideTag = true ∧ Nameless pointKey node

theorem hasUnaddressed_iff {forest : List Node} :
    HasUnaddressed forest ↔ ∃ before container behind, forest = before ++ container :: behind ∧
      (∀ other ∈ before, other.isElement containerTag = false) ∧
      container.isElement containerTag = true ∧
      ∃ node ∈ container.children, node.isElement overrideTag = true ∧ Nameless pointKey node := by
  constructor
  · rintro ⟨container, more, htop, hnode⟩
    obtain ⟨before, behind, hforest, hbefore, hcontainer, _⟩ := topLevel_eq_cons_iff.1 htop
    exact ⟨before, container, behind, hforest, hbefore, hcontainer, hnode⟩
  · rintro ⟨before, container, behind, hforest, hbefore, hcontainer, hnode⟩
    exact ⟨container, _, topLevel_eq_cons_iff.2 ⟨before, behind, hforest, hbefore, hcontainer, rfl⟩,
      hnode⟩

/-- A point at any depth has no name. -/
def HasNameless (forest : List Node) : Prop :=
  ∃ point, Within point forest ∧ point.isElement pointTag = true ∧ Nameless nameKey point

theorem hasUnnamed_iff {forest : List Node} : HasUnnamed forest ↔ HasNameless forest := by
  constructor
  · rintro ⟨address, hmem, hnone⟩
    rw [mem_addresses_iff, standsAt, Option.any_eq_true] at hmem
    obtain ⟨point, hget, helement⟩ := hmem
    rw [hget, Option.bind_some] at hnone
    exact ⟨point, within_iff.2 ⟨address, hget⟩, helement, nameless_iff.2 hnone⟩
  · rintro ⟨point, hin, helement, hnone⟩
    obtain ⟨address, hget⟩ := within_iff.1 hin
    refine ⟨address, mem_addresses_iff.2 ?_, ?_⟩
    · rw [standsAt, hget, Option.any_some, helement]
    · rw [hget, Option.bind_some]
      exact nameless_iff.1 hnone

theorem collect_error_iff {found : List Override} {nodes : List Node} {e : SourceError} :
    collect found nodes = .error e ↔
      (∃ node ∈ nodes, node.isElement overrideTag = true ∧ Nameless pointKey node) ∧
        e = .overrideWithoutPoint := by
  induction nodes generalizing found with
  | nil => simp [collect]
  | cons node rest ih =>
    rw [collect, List.exists_mem_cons_iff]
    split
    · rename_i helement
      cases hname : usable (node.attr? pointKey) with
      | none =>
        have hfirst : node.isElement overrideTag = true ∧ Nameless pointKey node :=
          ⟨helement, nameless_iff.2 hname⟩
        simp only [hfirst, and_self, true_or, true_and, Except.error.injEq, eq_comm]
      | some point =>
        have hnamed : ¬ Nameless pointKey node := by
          rw [nameless_iff, hname]
          exact Option.some_ne_none point
        dsimp only
        split <;> rw [ih] <;> simp only [hnamed, and_false, false_or]
    · rename_i helement
      rw [ih]
      simp only [helement, Bool.false_eq_true, false_and, false_or]

theorem overrides_error_iff {forest : List Node} {e : SourceError} :
    overrides forest = .error e ↔ HasUnaddressed forest ∧ e = .overrideWithoutPoint := by
  unfold overrides HasUnaddressed
  split
  · rename_i hnil
    simp [hnil]
  · rename_i container more hcontainer
    rw [collect_error_iff]
    simp [hcontainer]

/-! ## What is written -/

/-- Merging writes the base with each of its points substituted: by what the child has for the point,
and where it has nothing, by the content of the point with its own points substituted. -/
theorem merge_substitutes {child base : Component} {m : Bytes} (h : merge child base = .ok m) :
    ∃ all tree body, overrides (Markup.parse child.template.content) = .ok all ∧
      (∀ name, Override.find? name all = replacement? (Markup.parse child.template.content) name) ∧
      splice all (Markup.parse base.template.content) = .ok tree ∧
      tree = substituteAll (replacement? (Markup.parse child.template.content))
        (Markup.parse base.template.content) ∧
      render tree = .ok body ∧
      m = assemble [⟨Directive.extendable, []⟩] body child.auxiliary := by
  obtain ⟨all, tree, body, hall, hs, hbody, hm⟩ := exists_of_merge h
  exact ⟨all, tree, body, hall, congrFun (find?_overrides hall), hs, spliced_eq hall hs, hbody, hm⟩

/-- An override of one point with a point of another name, and a second override for the same. -/
def nestedChild : Component where
  template := ⟨"template", [⟨"extends", "b"⟩],
    "<extensions><extension point=a><extension-point name=b>1</extension-point></extension>" ++
      "<extension point=a /></extensions>"⟩
  auxiliary := ⟨none, [], []⟩

/-- Each of two points inside the other. -/
def nestedBase : Component where
  template := ⟨"template", [],
    "<extension-point name=a><extension-point name=b /></extension-point>" ++
      "<extension-point #c name=b>2<extension-point name=a /></extension-point>"⟩
  auxiliary := ⟨none, [], []⟩

def nestedMerged : Bytes :=
  "<template extendable>" ++
    "<template><extension-point name=\"b\">1</extension-point></template>" ++
    "<template #c=\"\">2<template><extension-point name=\"b\">1</extension-point></template></template>" ++
  "</template>\n"

/-- A point is replaced together with the point inside it, by content with a point of the same name
that stays open; another is kept, and the point inside it replaced. -/
theorem merge_substitutes_nested :
    merge nestedChild nestedBase = .ok nestedMerged ∧
      ∃ body, render (substituteAll (replacement? (Markup.parse nestedChild.template.content))
          (Markup.parse nestedBase.template.content)) = .ok body ∧
        nestedMerged = assemble [⟨Directive.extendable, []⟩] body nestedChild.auxiliary := by
  have hmerge : merge nestedChild nestedBase = .ok nestedMerged := by decide +kernel
  obtain ⟨_, _, body, _, _, _, rfl, hbody, hm⟩ := merge_substitutes hmerge
  exact ⟨hmerge, body, hbody, hm⟩

/-! ## The trees on the way -/

/-- The trees of a merge: the two that are read, and the base with the first of its points settled. -/
inductive MergeTree (child base : Component) : List Node → Prop where
  | child : MergeTree child base (Markup.parse child.template.content)
  | settled {all : List Override} {s : Splicing} {points later : List Address}
      (hall : overrides (Markup.parse child.template.content) = .ok all)
      (hpoints : addresses pointTag (Markup.parse base.template.content) = points ++ later)
      (hs : Splicing.settleAll (Markup.parse base.template.content) all
        ⟨Markup.parse base.template.content, []⟩ points = .ok s) : MergeTree child base s.forest

/-- The trees of finishing a component: the first of the points left are closed. -/
inductive FinishTree (c : Component) : List Node → Prop where
  | closed {points later : List Address}
      (hpoints : addresses pointTag (Markup.parse c.template.content) = points ++ later) :
      FinishTree c (points.foldl (fun current address => modify neutralize address current)
        (Markup.parse c.template.content))

theorem writable_neutralize {node : Node} (h : Writable node) : Writable (neutralize node) := by
  cases h with
  | text => exact .text
  | comment => exact .comment
  | doctype => exact .doctype
  | element _ all => exact .element (fun hv => absurd hv (by decide)) all

theorem writable_replaced {node : Node} {content : List Node} (h : Writable node)
    (hc : ∀ child ∈ content, Writable child) : Writable (neutralize (node.withChildren content)) := by
  cases h with
  | text => exact .text
  | comment => exact .comment
  | doctype => exact .doctype
  | element _ _ => exact .element (fun hv => absurd hv (by decide)) hc

section

variable {unspliced : List Node} {all : List Override} {s s' : Splicing}

theorem writable_settle {address : Address}
    (hall : ∀ name content, Override.find? name all = some content → ∀ node ∈ content, Writable node)
    (h : ∀ node ∈ s.forest, Writable node) (hs : s.settle unspliced all address = .ok s') :
    ∀ node ∈ s'.forest, Writable node := by
  obtain ⟨name, _, ⟨_, rfl⟩ | ⟨_, ⟨content, hcontent, rfl⟩ | ⟨_, rfl⟩⟩⟩ := settle_cases hs
  · exact h
  · exact writable_modify (fun node hn => writable_replaced hn (hall name content hcontent)) h
  · exact writable_modify (fun node => writable_neutralize) h

theorem writable_settleAll {points : List Address}
    (hall : ∀ name content, Override.find? name all = some content → ∀ node ∈ content, Writable node)
    (h : ∀ node ∈ s.forest, Writable node) (hs : s.settleAll unspliced all points = .ok s') :
    ∀ node ∈ s'.forest, Writable node := by
  induction points generalizing s with
  | nil =>
    cases hs
    exact h
  | cons address points ih =>
    rw [Splicing.settleAll] at hs
    split at hs
    · cases hs
    · rename_i next hnext
      exact ih (writable_settle hall h hnext) hs

end

theorem writable_foldl_neutralize {points : List Address} {forest : List Node}
    (h : ∀ node ∈ forest, Writable node) :
    ∀ node ∈ points.foldl (fun current address => modify neutralize address current) forest,
      Writable node := by
  induction points generalizing forest with
  | nil => exact h
  | cons address points ih => exact ih (writable_modify (fun node => writable_neutralize) h)

theorem MergeTree.writable {child base : Component} {tree : List Node} (h : MergeTree child base tree) :
    ∀ node ∈ tree, Writable node := by
  cases h with
  | child => exact writable_parse _
  | settled hall _ hs =>
    refine writable_settleAll (fun name content hcontent => ?_) (writable_parse _) hs
    have hreplacement := (congrFun (find?_overrides hall) name).symm.trans hcontent
    exact forall_replacement? Writable.children (writable_parse _) name content hreplacement

theorem FinishTree.writable {c : Component} {tree : List Node} (h : FinishTree c tree) :
    ∀ node ∈ tree, Writable node := by
  cases h with
  | closed => exact writable_foldl_neutralize (writable_parse _)

/-- Finishing fails only where the resolved source is no component: what was read can be written. -/
theorem finalize_error {text : Bytes} {e : ChainError ε} (h : finalize text = .error e) :
    ∃ s, e = .reparse s := by
  unfold finalize at h
  split at h
  · rename_i s _
    cases h
    exact ⟨s, rfl⟩
  rename_i c hc
  split at h
  · dsimp only at h
    have hlast : FinishTree c (closePoints (Markup.parse c.template.content)) :=
      .closed (List.append_nil _).symm
    obtain ⟨body, hbody⟩ := exists_render hlast.writable
    rw [hbody] at h
    cases h
  · cases h

/-! ## Failures -/

theorem merge_error_iff {child base : Component} {e : MergeError} :
    merge child base = .error e ↔
      HasUnaddressed (Markup.parse child.template.content) ∧ e = .override .overrideWithoutPoint ∨
      ¬ HasUnaddressed (Markup.parse child.template.content) ∧
        HasNameless (Markup.parse base.template.content) ∧ e = .pointWithoutName := by
  rcases merge_cases child base with ⟨e', ho, hm⟩ | ⟨all, ho, hm⟩
  · obtain ⟨hu, rfl⟩ := overrides_error_iff.1 ho
    simp [hm, hu, eq_comm]
  · have hu : ¬ HasUnaddressed (Markup.parse child.template.content) := by
      intro hu
      rw [overrides_error_iff.2 ⟨hu, rfl⟩] at ho
      cases ho
    rw [hasUnnamed_iff] at hm
    rcases hm with ⟨hn, hm⟩ | ⟨hn, merged, hm⟩
    · simp [hm, hu, hn, eq_comm]
    · simp [hm, hu, hn]

/-- Merging fails exactly if some override of the child has no point, which is a fault of the source,
or else some point of the base has no name, which is one of the ancestor. It never fails to write, nor
does finishing: no tree on the way has a void element with children. -/
theorem merge_fails_iff (child base : Component) :
    (∀ e, merge child base = .error e ↔
      HasUnaddressed (Markup.parse child.template.content) ∧ e = .override .overrideWithoutPoint ∨
      ¬ HasUnaddressed (Markup.parse child.template.content) ∧
        HasNameless (Markup.parse base.template.content) ∧ e = .pointWithoutName) ∧
    (ChainError.merge (ε := ε) (.override .overrideWithoutPoint)).causes = [.malformedSource] ∧
    (ChainError.merge (ε := ε) .pointWithoutName).causes = [.malformedAncestor] ∧
    (∀ tree, MergeTree child base tree → EmptyVoids tree ∧ ∃ text, render tree = .ok text) ∧
    (∀ c tree, FinishTree c tree → EmptyVoids tree ∧ ∃ text, render tree = .ok text) ∧
    (∀ (source : Bytes) (e : ChainError ε), finalize source = .error e → ∃ s, e = .reparse s) := by
  refine ⟨fun e => merge_error_iff, rfl, rfl, fun tree h => ?_, fun c tree h => ?_,
    fun source e => finalize_error⟩
  · exact ⟨writable_iff.1 h.writable, exists_render h.writable⟩
  · exact ⟨writable_iff.1 h.writable, exists_render h.writable⟩

end Graft.Extend
