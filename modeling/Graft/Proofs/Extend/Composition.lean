import Graft.Proofs.Extend.Recorded

/-!
# Graft.Proofs.Extend.Composition

A resolved chain is the composition of its trees. Each level writes its tree and the next one reads
it back, but what ends up in the template is the tree of the last base with the overrides of one
level after the other substituted into it.

* `Level`, `Chain`: the sources of a chain, entry first.
* `compose`: the tree of a chain.
* `Tame`: levels whose trees are read back as they are.
* `Resolved`: merging the levels of a chain, last base first.
* `Resolved.writtenFrom`: a resolved chain is written from the tree of the chain.
-/

namespace Graft.Extend

open Markup

variable {σ ε : Type}

/-- A source of a chain, and the component it is. -/
structure Level where
  source : Bytes
  component : Component

/-- The tree of the template. -/
def Level.tree (level : Level) : List Node := Markup.parse level.component.template.content

/-- The sources met from a path on: each names the next, the last names none. -/
inductive Chain (files : Files σ ε) (pad : Padding) : Bytes → Bytes → σ → List Level → Prop where
  | last {path source : Bytes} {state : σ} {c : Component} :
      Component.parse pad source = .ok c → c.template.extends? = none →
        Chain files pad path source state [⟨source, c⟩]
  | cons {path source target data : Bytes} {state state' : σ} {c : Component} {levels : List Level} :
      Component.parse pad source = .ok c → c.template.extends? = some target →
        files.read (Path.base path target) (files.register (Path.base path target) state) =
          (.ok data, state') →
        Chain files pad (Path.base path target) data state' levels →
          Chain files pad path source state (⟨source, c⟩ :: levels)

/-- The tree of the last base, with the overrides of each level before it substituted in turn. -/
def compose : List Level → List Node
  | [] => []
  | [level] => level.tree
  | level :: levels => substituteAll (replacement? level.tree) (compose levels)

/-- No tag is named `plaintext`, and the tree is read back as it is. -/
structure Tame (level : Level) : Prop where
  plain : ∀ t ∈ tokens level.source, tagName t ≠ plaintextName
  stable : ∀ node ∈ level.tree, Stable node

/-! ## Tame levels -/

mutual

def isStable : Node → Bool
  | .text _ => true
  | .comment data => !data.contains Byte.cr
  | .doctype _ => false
  | .element name _ children =>
    !(swallowsLineFeed name && startsWithLineFeed children) && allStable children

def allStable : List Node → Bool
  | [] => true
  | node :: rest => isStable node && allStable rest

end

theorem allStable_iff (forest : List Node) :
    allStable forest = true ↔ ∀ node ∈ forest, Stable node := by
  induction forest using forestInduction with
  | nil => simp [allStable]
  | leaf node rest hleaf ih =>
    rw [allStable, Bool.and_eq_true, ih, List.forall_mem_cons]
    refine and_congr_left fun _ => ?_
    cases node with
    | text data => exact ⟨fun _ => .text, fun _ => rfl⟩
    | comment data =>
      rw [isStable, Bool.not_eq_true', List.contains_eq_mem, decide_eq_false_iff_not]
      refine ⟨.comment, fun h => ?_⟩
      cases h with
      | comment h => exact h
    | doctype data =>
      refine ⟨fun h => absurd h (by simp [isStable]), fun h => ?_⟩
      cases h
    | element name attrs children => exact absurd rfl (hleaf name attrs children)
  | element name attrs children rest ihc ih =>
    rw [allStable, isStable, Bool.and_eq_true, Bool.and_eq_true, ih, ihc, List.forall_mem_cons,
      Bool.not_eq_true']
    refine and_congr_left fun _ => ⟨fun h => .element h.1 h.2, fun h => ?_⟩
    cases h with
    | element feed all => exact ⟨feed, all⟩

instance (level : Level) : Decidable (Tame level) :=
  decidable_of_iff
    ((∀ t ∈ tokens level.source, tagName t ≠ plaintextName) ∧ allStable level.tree = true)
    ⟨fun h => ⟨h.1, (allStable_iff _).1 h.2⟩, fun h => ⟨h.plain, (allStable_iff _).2 h.stable⟩⟩

/-! ## The tree of a chain -/

theorem Chain.parsed {files : Files σ ε} {pad : Padding} {path source : Bytes} {state : σ}
    {levels : List Level} (h : Chain files pad path source state levels) :
    ∀ level ∈ levels, Component.parse pad level.source = .ok level.component := by
  induction h with
  | last hp _ => simpa using hp
  | cons hp _ _ _ ih => exact List.forall_mem_cons.2 ⟨hp, ih⟩

theorem Chain.unique {files : Files σ ε} {pad : Padding} {path source : Bytes} {state : σ}
    {levels levels' : List Level} (h : Chain files pad path source state levels)
    (h' : Chain files pad path source state levels') : levels = levels' := by
  induction h generalizing levels' with
  | last hp hnone =>
    cases h' with
    | last hp' _ =>
      rw [hp] at hp'
      cases hp'
      rfl
    | cons hp' hsome =>
      rw [hp] at hp'
      cases hp'
      rw [hnone] at hsome
      cases hsome
  | cons hp hsome hread _ ih =>
    cases h' with
    | last hp' hnone =>
      rw [hp] at hp'
      cases hp'
      rw [hnone] at hsome
      cases hsome
    | cons hp' hsome' hread' hrest =>
      rw [hp] at hp'
      cases hp'
      rw [hsome] at hsome'
      cases hsome'
      rw [hread] at hread'
      cases hread'
      rw [ih hrest]

theorem forall_compose {p : Node → Prop} (hp : ∀ {content}, Kept content p) {levels : List Level}
    (h : ∀ level ∈ levels, ∀ node ∈ level.tree, p node) : ∀ node ∈ compose levels, p node := by
  induction levels with
  | nil => simp [compose]
  | cons level levels ih =>
    rw [List.forall_mem_cons] at h
    cases levels with
    | nil => exact h.1
    | cons next levels =>
      exact forall_substituteAll hp
        (forall_replacement? (@hp fun _ => none).children h.1) _ (ih h.2)

theorem sound_tree {pad : Padding} {level : Level}
    (h : Component.parse pad level.source = .ok level.component) (ht : Tame level) :
    ∀ node ∈ level.tree, Sound node :=
  sound_template h ht.plain

/-! ## Writing and reading back -/

/-- A forest, or the same with its texts joined. -/
def JoinedFrom (forest : List Node) (read : List Node) : Prop :=
  read = forest ∨ read = joinFrom [] forest

/-- Substituting into a forest that was written and read back makes no difference in writing. -/
theorem JoinedFrom.render_substituteAll {forest read : List Node}
    {content : Bytes → Option (List Node)} (h : JoinedFrom forest read)
    (hf : ∀ node ∈ forest, Filled node)
    (hc : ∀ name nodes, content name = some nodes → ∀ node ∈ nodes, Filled node) :
    render (substituteAll content read) = render (substituteAll content forest) := by
  rcases h with rfl | rfl
  · rfl
  · have hread := forall_substituteAll kept_filled hc _ (filled_joinFrom forest [])
    have hforest := forall_substituteAll kept_filled hc _ hf
    rw [← render_joinFrom hread, joinFrom_substituteAll, List.append_nil, render_joinFrom hforest]

/-- Merging levels, last base first. -/
inductive Resolved : List Level → Bytes → Prop where
  | last {level : Level} : Resolved [level] level.source
  | cons {level : Level} {levels : List Level} {resolved merged : Bytes} {base : Component} :
      Resolved levels resolved → Component.parse .none resolved = .ok base →
        merge level.component base = .ok merged → Resolved (level :: levels) merged

theorem exists_chain {files : Files σ ε} {opts : Options} {levels : Nat} {isEntry : Bool}
    {path source resolved : Bytes} {walk walk' : Walk σ}
    (h : resolveLevel files opts levels isEntry path source walk = (.ok resolved, walk')) :
    ∃ chain, Chain files opts.padding path source walk.state chain ∧ Resolved chain resolved := by
  induction levels generalizing isEntry path source walk resolved walk' with
  | zero =>
    unfold resolveLevel at h
    split at h
    · cases h
    rename_i c hc
    split at h
    · rename_i hnone
      cases h
      exact ⟨_, .last hc hnone, .last⟩
    · cases h
  | succ levels ih =>
    unfold resolveLevel at h
    split at h
    · cases h
    rename_i c hc
    split at h
    · rename_i hnone
      cases h
      exact ⟨_, .last hc hnone, .last⟩
    rename_i target htarget
    dsimp only at h
    split at h
    · cases h
    split at h
    · cases h
    rename_i data hdata
    split at h
    · cases h
    rename_i text walk₁ hlevel
    split at h
    · cases h
    rename_i base hbase
    split at h
    · cases h
    rename_i merged hmerged
    cases h
    obtain ⟨chain, hchain, hresolved⟩ := ih hlevel
    exact ⟨⟨source, c⟩ :: chain, .cons hc htarget (Prod.ext hdata rfl) hchain,
      .cons hresolved hbase hmerged⟩

/-- A chain of one level stays as it is; a longer one is written from its tree. -/
inductive WrittenFrom : List Level → Bytes → Prop where
  | source {level : Level} : WrittenFrom [level] level.source
  | merged {level : Level} {levels : List Level} {body : Bytes} :
      levels ≠ [] → render (compose (level :: levels)) = .ok body →
        WrittenFrom (level :: levels)
          (assemble [⟨Directive.extendable, []⟩] body level.component.auxiliary)

section

variable {pad : Padding} {levels : List Level} {resolved : Bytes}

theorem sound_compose (hp : ∀ level ∈ levels, Component.parse pad level.source = .ok level.component)
    (ht : ∀ level ∈ levels, Tame level) : ∀ node ∈ compose levels, Sound node :=
  forall_compose kept_sound fun level hl => sound_tree (hp level hl) (ht level hl)

theorem stable_compose (ht : ∀ level ∈ levels, Tame level) : ∀ node ∈ compose levels, Stable node :=
  forall_compose kept_stable fun level hl => (ht level hl).stable

theorem WrittenFrom.joinedFrom {base : Component} (h : WrittenFrom levels resolved)
    (hp : ∀ level ∈ levels, Component.parse pad level.source = .ok level.component)
    (ht : ∀ level ∈ levels, Tame level) (hb : Component.parse .none resolved = .ok base) :
    JoinedFrom (compose levels) (Markup.parse base.template.content) := by
  have hsound := sound_compose hp ht
  cases h with
  | @source level =>
    rw [template_eq hb (hp level (List.mem_singleton_self level))]
    exact .inl rfl
  | @merged level levels body hne hr =>
    have hbegins :=
      beginsWith_assemble (legible_template hsound hr (.inr rfl)) level.component.auxiliary
    rw [template_of_beginsWith hbegins rfl hb]
    exact .inr (parse_render hsound (stable_compose ht) hr)

theorem Resolved.writtenFrom (h : Resolved levels resolved)
    (hp : ∀ level ∈ levels, Component.parse pad level.source = .ok level.component)
    (ht : ∀ level ∈ levels, Tame level) : WrittenFrom levels resolved := by
  induction h with
  | last => exact .source
  | @cons level levels resolved merged base hlevels hbase hmerge ih =>
    rw [List.forall_mem_cons] at hp ht
    have hjoined := (ih hp.2 ht.2).joinedFrom hp.2 ht.2 hbase
    obtain ⟨all, spliced, body, hall, hspliced, hbody, rfl⟩ := exists_of_merge hmerge
    have hne : levels ≠ [] := by cases hlevels <;> simp
    have hfilled (node : Node) (hn : node ∈ compose levels) : Filled node :=
      filled_of_sound (sound_compose hp.2 ht.2 node hn)
    have htree : ∀ node ∈ level.tree, Filled node :=
      fun node hn => filled_of_sound (sound_tree hp.1 ht.1 node hn)
    have hsubstituted : spliced =
        substituteAll (replacement? level.tree) (Markup.parse base.template.content) :=
      spliced_eq hall hspliced
    rw [hsubstituted, hjoined.render_substituteAll hfilled
      (forall_replacement? (@kept_filled fun _ => none).children htree)] at hbody
    refine .merged hne ?_
    obtain ⟨next, more, rfl⟩ := List.exists_cons_of_ne_nil hne
    exact hbody

end

/-! ## Finishing -/

/-- A marked component is finished by writing its tree with the points closed. -/
theorem exists_finalize {resolved body closed : Bytes} {c : Component}
    (hc : Component.parse .none resolved = .ok c)
    (ht : c.template = ⟨BlockType.template, [⟨Directive.extendable, []⟩], body⟩)
    (hr : render (substituteAll (fun _ => none) (Markup.parse body)) = .ok closed) :
    ∃ a, finalize (ε := ε) resolved = .ok (assemble [] closed a) := by
  have hmarked : c.template.isExtendable = true := by
    rw [ht]
    rfl
  unfold finalize
  rw [hc]
  dsimp only
  rw [if_pos hmarked, ht, closePoints_eq, hr]
  exact ⟨_, rfl⟩

theorem rereadAttrs_nil : rereadAttrs [] = [] := by
  rw [rereadAttrs, writeAttrs_nil, List.nil_append, readAttrs?_gt]
  rfl

theorem code_transform {files : Files σ ε} {opts : Options} {path source resolved : Bytes} {state : σ}
    (h : (resolve files opts path source state).1 = .ok resolved) :
    (transform files opts path source state).code = finalize resolved := by
  rw [transform_code, h]
  rfl

/-- The template of a resolved chain is written from the tree of the chain, and the template of the
finished code from that tree with the points left in it closed. -/
theorem resolve_refines_compose {files : Files σ ε} {opts : Options} {path source resolved : Bytes}
    {state : σ} {entry : Level} {bases : List Level}
    (hchain : Chain files opts.padding path source state (entry :: bases)) (hne : bases ≠ [])
    (ht : ∀ level ∈ entry :: bases, Tame level)
    (h : (resolve files opts path source state).1 = .ok resolved) :
    ∃ body closed, render (compose (entry :: bases)) = .ok body ∧
      render (substituteAll (fun _ => none) (compose (entry :: bases))) = .ok closed ∧
      BeginsWith resolved ⟨BlockType.template, [⟨Directive.extendable, []⟩], body⟩ ∧
      (∀ c, Component.parse .none resolved = .ok c → c.template.content = body) ∧
      ((∀ b ∈ entry.component.auxiliary.written, ClosesItself b.attrs) →
        ∃ code, (transform files opts path source state).code = .ok code) ∧
      ∀ code, (transform files opts path source state).code = .ok code →
        BeginsWith code ⟨BlockType.template, [], closed⟩ ∧
          ∀ c, Component.parse .none code = .ok c → c.template.content = closed := by
  obtain ⟨levels, hlevels, hresolved⟩ := exists_chain (Prod.ext h rfl)
  obtain rfl := hlevels.unique hchain
  have hsound := sound_compose hchain.parsed ht
  have hclosedSound := forall_substituteAll (@kept_sound fun _ => none) (by simp) _ hsound
  obtain ⟨closed, hclosed, _⟩ := readsAll_of_sound hclosedSound
  cases hresolved.writtenFrom hchain.parsed ht with
  | source => exact absurd rfl hne
  | @merged _ _ body _ hbody =>
    have hlegible := legible_template hsound hbody (.inr rfl)
    have hbegins := beginsWith_assemble hlegible entry.component.auxiliary
    rw [rereadAttrs_extendable] at hbegins
    have htemplate {c : Component} (hc : Component.parse .none _ = .ok c) :=
      template_of_beginsWith hbegins rfl hc
    have hjoined : JoinedFrom (compose (entry :: bases)) (Markup.parse body) :=
      .inr (parse_render hsound (stable_compose ht) hbody)
    have hread : render (substituteAll (fun _ => none) (Markup.parse body)) = .ok closed := by
      rw [hjoined.render_substituteAll (fun node hn => filled_of_sound (hsound node hn)) (by simp)]
      exact hclosed
    rw [code_transform h]
    refine ⟨body, closed, hbody, hclosed, hbegins, fun c hc => by rw [htemplate hc], ?_, ?_⟩
    · intro hcloses
      have hparsed := hchain.parsed entry (List.mem_cons_self ..)
      have hblock := soundBlock_of_written hparsed (ht entry (List.mem_cons_self ..)).plain
      obtain ⟨_, _, hdist, _⟩ := parse_ok_iff.1 hparsed
      obtain ⟨c, hc⟩ := restored_assemble hlegible hdist.placed.2 fun b hb =>
        (hblock b hb).legible (hcloses b hb)
      obtain ⟨a, ha⟩ := exists_finalize hc.parsed hc.template hread
      exact ⟨_, ha⟩
    · intro code hcode
      obtain ⟨c, hc⟩ : ∃ c, Component.parse .none
          (assemble [⟨Directive.extendable, []⟩] body entry.component.auxiliary) = .ok c := by
        unfold finalize at hcode
        split at hcode
        · cases hcode
        · exact ⟨_, ‹_›⟩
      obtain ⟨a, ha⟩ := exists_finalize (ε := ε) hc (htemplate hc) hread
      rw [ha] at hcode
      cases hcode
      have hbegins' := beginsWith_assemble (legible_template hclosedSound hclosed (.inl rfl)) a
      rw [rereadAttrs_nil] at hbegins'
      exact ⟨hbegins', fun c hc => by rw [template_of_beginsWith hbegins' rfl hc]⟩

theorem exists_ok_of_isSome {α : Type} {x : Except ε α} (h : x.toOption.isSome = true) :
    ∃ a, x = .ok a := by
  cases x with
  | error e => cases h
  | ok a => exact ⟨a, rfl⟩

/-- A page that extends a layout that extends a frame. -/
def pageSource : Bytes :=
  "<template extends=\"layout\"><extensions><extension point=\"b\">1" ++
    "<extension-point name=\"c\">2</extension-point></extension></extensions></template>" ++
    "<style>s</style>"

def layoutSource : Bytes :=
  "<template extends=\"frame\"><extensions><extension point=\"a\">" ++
    "<extension-point name=\"b\">0</extension-point></extension></extensions></template>"

def frameSource : Bytes := "<template><p><extension-point name=\"a\">x</extension-point></p></template>"

def pageFiles : Files Unit Unit where
  read path state := (.ok (if path = ("/layout" : Bytes) then layoutSource else frameSource), state)

/-- The levels of the page, from the page to the frame. -/
def pageLevels : List Level :=
  [⟨pageSource, ⟨⟨"template", [⟨"extends", "layout"⟩],
        "<extensions><extension point=\"b\">1" ++
          "<extension-point name=\"c\">2</extension-point></extension></extensions>"⟩,
      ⟨none, [⟨"style", [], "s"⟩], []⟩⟩⟩,
    ⟨layoutSource, ⟨⟨"template", [⟨"extends", "frame"⟩],
        "<extensions><extension point=\"a\">" ++
          "<extension-point name=\"b\">0</extension-point></extension></extensions>"⟩,
      ⟨none, [], []⟩⟩⟩,
    ⟨frameSource, ⟨⟨"template", [], "<p><extension-point name=\"a\">x</extension-point></p>"⟩,
      ⟨none, [], []⟩⟩⟩]

theorem resolve_refines_compose_page :
    ∃ code, (transform pageFiles ⟨2, .line⟩ "/page" pageSource ()).code = .ok code ∧
      BeginsWith code ⟨"template", [],
        "<p><template><template>1<template>2</template></template></template></p>"⟩ := by
  obtain ⟨hparsed, htame, hcomposed, hsome⟩ :
      (∀ level ∈ pageLevels, Component.parse .line level.source = .ok level.component) ∧
        (∀ level ∈ pageLevels, Tame level) ∧
        render (substituteAll (fun _ => none) (compose pageLevels)) =
          .ok "<p><template><template>1<template>2</template></template></template></p>" ∧
        (resolve pageFiles ⟨2, .line⟩ "/page" pageSource ()).1.toOption.isSome = true := by
    decide +kernel
  have hchain : Chain pageFiles .line "/page" pageSource () pageLevels :=
    .cons (hparsed _ (.head _)) (show _ = some ("layout" : Bytes) by decide +kernel)
      (show pageFiles.read _ () = (.ok layoutSource, ()) by decide +kernel)
      (.cons (hparsed _ (.tail _ (.head _))) (show _ = some ("frame" : Bytes) by decide +kernel)
        (show pageFiles.read _ () = (.ok frameSource, ()) by decide +kernel)
        (.last (hparsed _ (.tail _ (.tail _ (.head _)))) (by decide +kernel)))
  obtain ⟨resolved, hresolved⟩ := exists_ok_of_isSome hsome
  obtain ⟨body, closed, _, hclosed, _, _, hcode, hall⟩ :=
    resolve_refines_compose hchain (List.cons_ne_nil _ _) htame hresolved
  obtain ⟨code, hcode⟩ := hcode (by
    intro b hb
    fin_cases hb
    exact ⟨[], by decide +kernel⟩)
  obtain rfl := Except.ok.inj (hclosed.symm.trans hcomposed)
  exact ⟨code, hcode, (hall code hcode).1⟩

end Graft.Extend
