import Graft.Proofs.Extend.Composition
import Graft.Proofs.Extend.Within

/-!
# Graft.Proofs.Extend.Untouched

Writing as a normal form, and what follows for a base template that no override touches: its text
does not change any more from the first level on, however many levels stand in front of it.

* `Untouched`: no level has an override for a point of a tree.
* `substituteAll_closePoints`: a tree whose points are closed has none left to settle.
* `Resolved.untouched`: the template of a resolved chain that leaves its base alone.
* `render_parse_normal_form`: when writing is a normal form, and the text of an untouched base.
-/

namespace Graft.Extend

open Markup

variable {σ ε : Type}

/-- What is given for the points of a forest has nothing for any of them. -/
def HasNone (content : Bytes → Option (List Node)) (forest : List Node) : Prop :=
  ∀ attrs children, Within (.element pointTag attrs children) forest →
    (Attr.find? nameKey attrs).bind content = none

/-- No level has an override for a point of the tree. -/
def Untouched (levels : List Level) (tree : List Node) : Prop :=
  ∀ level ∈ levels, HasNone (replacement? level.tree) tree

section

variable {content : Bytes → Option (List Node)}

theorem HasNone.tail {node : Node} {rest : List Node} (h : HasNone content (node :: rest)) :
    HasNone content rest :=
  fun attrs children hw => h attrs children hw.behind

theorem HasNone.children {name : Bytes} {attrs : List Attr} {children rest : List Node}
    (h : HasNone content (.element name attrs children :: rest)) : HasNone content children :=
  fun attrs' children' hw => h attrs' children' (.inside (List.mem_cons_self ..) hw)

theorem substituteAll_of_hasNone (forest : List Node) :
    HasNone content forest → substituteAll content forest = closePoints forest := by
  rw [closePoints_eq]
  induction forest using forestInduction with
  | nil => intro _; rw [substituteAll, substituteAll]
  | leaf node rest hleaf ih =>
    intro h
    rw [substituteAll_cons, substituteAll_cons, substitute_leaf hleaf, substitute_leaf hleaf,
      ih h.tail]
  | element name attrs children rest ihc ih =>
    intro h
    rw [substituteAll_cons, substituteAll_cons, ih h.tail]
    congr 1
    by_cases hname : name = pointTag
    · subst hname
      rw [substitute_kept (h attrs children (.here (List.mem_cons_self ..))),
        substitute_kept (by simp), ihc h.children]
    · rw [substitute_element hname, substitute_element hname, ihc h.children]

theorem substituteAll_closePoints (forest : List Node) :
    substituteAll content (closePoints forest) = closePoints forest := by
  rw [closePoints_eq]
  induction forest using forestInduction with
  | nil => rw [substituteAll, substituteAll]
  | leaf node rest hleaf ih =>
    rw [substituteAll_cons, substitute_leaf hleaf, substituteAll_cons, substitute_leaf hleaf, ih]
  | element name attrs children rest ihc ih =>
    rw [substituteAll_cons, substituteAll_cons, ih]
    congr 1
    by_cases hname : name = pointTag
    · subst hname
      rw [substitute_kept (by simp), substitute_element (by decide), ihc]
    · rw [substitute_element hname, substitute_element hname, ihc]

theorem kept_normal : Kept content Normal where
  children := by
    intro name attrs children h
    cases h with
    | element _ hall => exact hall
  element := by
    intro name attrs children h hall
    cases h with
    | element hfeed _ =>
      exact .element (by rwa [isFed, startsWithLineFeed_substituteAll]) hall
  point := by
    intro attrs children inner _ hall
    refine .element ?_ hall
    rw [isFed, show swallowsLineFeed neutralTag = false by decide, Bool.false_and]

end

/-! ## An untouched base -/

section

variable {tree : List Node} {body : Bytes}

theorem sound_closePoints (h : ∀ node ∈ tree, Sound node) : ∀ node ∈ closePoints tree, Sound node := by
  rw [closePoints_eq]
  exact forall_substituteAll kept_sound (by simp) tree h

theorem normal_closePoints (h : ∀ node ∈ tree, Normal node) :
    ∀ node ∈ closePoints tree, Normal node := by
  rw [closePoints_eq]
  exact forall_substituteAll kept_normal (by simp) tree h

/-- Settling a closed tree that was written and read back does not change its text. -/
theorem render_substituteAll_parse {content : Bytes → Option (List Node)}
    (hs : ∀ node ∈ tree, Sound node) (hn : ∀ node ∈ tree, Normal node)
    (hbody : render (closePoints tree) = .ok body)
    (hc : ∀ name nodes, content name = some nodes → ∀ node ∈ nodes, Filled node) :
    render (substituteAll content (Markup.parse body)) = .ok body := by
  have hsound := sound_closePoints hs
  have hjoined : JoinedFrom (closePoints tree) (Markup.parse body) :=
    .inr (parse_render_normal hsound (normal_closePoints hn) hbody)
  rw [hjoined.render_substituteAll (fun node hmem => filled_of_sound (hsound node hmem)) hc,
    substituteAll_closePoints, hbody]

theorem beginsWith_closed (hs : ∀ node ∈ tree, Sound node)
    (hbody : render (closePoints tree) = .ok body) (a : Auxiliary) :
    BeginsWith (assemble [⟨Directive.extendable, []⟩] body a)
        ⟨BlockType.template, [⟨Directive.extendable, []⟩], body⟩ ∧
      BeginsWith (assemble [] body a) ⟨BlockType.template, [], body⟩ := by
  have hlegible (attrs : List Attr) (hattrs : attrs = [] ∨ attrs = [⟨Directive.extendable, []⟩]) :
      Legible ⟨BlockType.template, attrs, body⟩ := legible_template (sound_closePoints hs) hbody hattrs
  have hmarked := beginsWith_assemble (hlegible _ (.inr rfl)) a
  have hplain := beginsWith_assemble (hlegible _ (.inl rfl)) a
  rw [rereadAttrs_extendable] at hmarked
  rw [rereadAttrs_nil] at hplain
  exact ⟨hmarked, hplain⟩

theorem Resolved.cases_cons {level : Level} {levels : List Level} {resolved : Bytes}
    (h : Resolved (level :: levels) resolved) (hne : levels ≠ []) :
    ∃ below base, Resolved levels below ∧ Component.parse .none below = .ok base ∧
      merge level.component base = .ok resolved := by
  cases h with
  | last => exact absurd rfl hne
  | cons hbelow hbase hmerge => exact ⟨_, _, hbelow, hbase, hmerge⟩

theorem Resolved.untouched {pad : Padding} {levels : List Level} {base : Level} {resolved : Bytes}
    (h : Resolved (levels ++ [base]) resolved) (hne : levels ≠ [])
    (hp : ∀ level ∈ levels ++ [base], Component.parse pad level.source = .ok level.component)
    (hs : ∀ node ∈ base.tree, Sound node) (hn : ∀ node ∈ base.tree, Normal node)
    (hun : Untouched levels base.tree) (hbody : render (closePoints base.tree) = .ok body) :
    BeginsWith resolved ⟨BlockType.template, [⟨Directive.extendable, []⟩], body⟩ := by
  induction levels generalizing resolved with
  | nil => exact absurd rfl hne
  | cons level levels ih =>
    rw [List.cons_append, List.forall_mem_cons] at hp
    rw [Untouched, List.forall_mem_cons] at hun
    obtain ⟨below, next, hbelow, hnext, hmerge⟩ := h.cases_cons (by simp)
    obtain ⟨all, spliced, body', hall, hspliced, hbody', rfl⟩ := exists_of_merge hmerge
    have hsubstituted : spliced =
        substituteAll (replacement? level.tree) (Markup.parse next.template.content) :=
      spliced_eq hall hspliced
    have hrendered : render spliced = .ok body := by
      rw [hsubstituted]
      cases levels with
      | nil =>
        obtain rfl : below = base.source := by
          cases hbelow with
          | last => rfl
          | cons hnil => cases hnil
        have hbase : Markup.parse next.template.content = base.tree := by
          rw [template_eq hnext (hp.2 base (List.mem_singleton_self base)), Level.tree]
        rw [hbase, substituteAll_of_hasNone _ hun.1, hbody]
      | cons =>
        have hbegins := ih hbelow (List.cons_ne_nil _ _) hp.2 hun.2
        rw [template_of_beginsWith hbegins rfl hnext]
        have hfilled (node : Node) (hmem : node ∈ level.tree) : Filled node :=
          have hshaped : Shaped (fun _ => True) RawData node :=
            shaped_template hp.1 trivial (fun _ _ => trivial) node hmem
          filled_of_sound hshaped
        exact render_substituteAll_parse hs hn hbody
          (forall_replacement? (@kept_filled fun _ => none).children hfilled)
    rw [hbody'] at hrendered
    cases hrendered
    exact (beginsWith_closed hs hbody _).1

theorem beginsWith_finalize {resolved code : Bytes} (hs : ∀ node ∈ tree, Sound node)
    (hn : ∀ node ∈ tree, Normal node) (hbody : render (closePoints tree) = .ok body)
    (h : BeginsWith resolved ⟨BlockType.template, [⟨Directive.extendable, []⟩], body⟩)
    (hcode : finalize (ε := ε) resolved = .ok code) :
    BeginsWith code ⟨BlockType.template, [], body⟩ := by
  obtain ⟨c, hc⟩ : ∃ c, Component.parse .none resolved = .ok c := by
    unfold finalize at hcode
    split at hcode
    · cases hcode
    · exact ⟨_, ‹_›⟩
  obtain ⟨a, ha⟩ := exists_finalize (ε := ε) hc (template_of_beginsWith h rfl hc)
    (render_substituteAll_parse hs hn hbody (by simp))
  rw [ha] at hcode
  cases hcode
  exact (beginsWith_closed hs hbody a).2

end

/-- Writing the tree of a text, and reading and writing that once more, gives the same text exactly
if the tree is normal. Then the text of a base template that no override touches is the same behind
every number of levels. -/
theorem render_parse_normal_form {x : Bytes} (he : allEnded (Markup.parse x) = true) :
    ∃ r, render (Markup.parse x) = .ok r ∧
      (render (Markup.parse r) = .ok r ↔ ∀ node ∈ Markup.parse x, Normal node) ∧
      ((∀ node ∈ Markup.parse x, Normal node) →
        ∃ body, render (closePoints (Markup.parse x)) = .ok body ∧
          ∀ {σ ε : Type} {files : Files σ ε} {opts : Options} {path source resolved : Bytes}
            {state : σ} {levels : List Level} {base : Level},
            Chain files opts.padding path source state (levels ++ [base]) → levels ≠ [] →
            base.component.template.content = x → Untouched levels base.tree →
            (resolve files opts path source state).1 = .ok resolved →
              BeginsWith resolved ⟨BlockType.template, [⟨Directive.extendable, []⟩], body⟩ ∧
              ∀ code, (transform files opts path source state).code = .ok code →
                BeginsWith code ⟨BlockType.template, [], body⟩) := by
  have hsound : ∀ node ∈ Markup.parse x, Sound node :=
    fun node hmem => sound_of_isEnded (shaped_parse x node hmem) ((allEnded_iff _).1 he node hmem)
  obtain ⟨r, hr, _⟩ := readsAll_of_sound hsound
  refine ⟨r, hr, render_parse_iff hsound hr, fun hn => ?_⟩
  obtain ⟨body, hbody, _⟩ := readsAll_of_sound (sound_closePoints hsound)
  refine ⟨body, hbody, ?_⟩
  intro σ ε files opts path source resolved state levels base hchain hne hx hun h
  subst hx
  obtain ⟨chain, hchain', hresolved⟩ := exists_chain (Prod.ext h rfl)
  obtain rfl := hchain'.unique hchain
  have hbegins := hresolved.untouched hne hchain.parsed hsound hn hun hbody
  refine ⟨hbegins, fun code hcode => ?_⟩
  rw [code_transform h] at hcode
  exact beginsWith_finalize hsound hn hbody hbegins hcode

/-- A level that overrides nothing. -/
def bareLevel (target : Bytes) : Level :=
  ⟨"<template extends=\"" ++ target ++ "\"></template>",
    ⟨⟨"template", [⟨"extends", target⟩], []⟩, ⟨none, [], []⟩⟩⟩

def frameBody : Bytes := "<p><extension-point name=\"a\">x</extension-point>&lt;</i>\r</p>"

def frameLevel : Level :=
  ⟨"<template>" ++ frameBody ++ "</template>", ⟨⟨"template", [], frameBody⟩, ⟨none, [], []⟩⟩⟩

def bareFiles : Files Unit Unit where
  read path state :=
    (.ok (if path = ("/layout" : Bytes) then (bareLevel "frame").source else frameLevel.source), state)

theorem render_parse_normal_form_frame :
    ∃ r resolved, allEnded (Markup.parse frameBody) = true ∧
      render (Markup.parse frameBody) = .ok r ∧ render (Markup.parse r) = .ok r ∧
      (resolve bareFiles ⟨2, .line⟩ "/page" (bareLevel "layout").source ()).1 = .ok resolved ∧
      BeginsWith resolved
        ⟨"template", [⟨"extendable", []⟩], "<p><template>x</template>&lt;\n</p>"⟩ := by
  obtain ⟨hparsed, htrees, he, hstable, hclosed, hsome⟩ :
      (∀ level ∈ [bareLevel "layout", bareLevel "frame", frameLevel],
          Component.parse .line level.source = .ok level.component) ∧
        (∀ level ∈ [bareLevel "layout", bareLevel "frame"], level.tree = []) ∧
        allEnded (Markup.parse frameBody) = true ∧ allStable (Markup.parse frameBody) = true ∧
        render (closePoints (Markup.parse frameBody)) = .ok "<p><template>x</template>&lt;\n</p>" ∧
        (resolve bareFiles ⟨2, .line⟩ "/page"
          (bareLevel "layout").source ()).1.toOption.isSome = true := by
    decide +kernel
  have hnormal : ∀ node ∈ Markup.parse frameBody, Normal node :=
    fun node hmem => normal_of_stable ((allStable_iff _).1 hstable node hmem)
  have hchain : Chain bareFiles .line "/page" (bareLevel "layout").source ()
      ([bareLevel "layout", bareLevel "frame"] ++ [frameLevel]) :=
    .cons (hparsed _ (.head _)) (show _ = some ("layout" : Bytes) by decide +kernel)
      (show bareFiles.read _ () = (.ok (bareLevel "frame").source, ()) by decide +kernel)
      (.cons (hparsed _ (.tail _ (.head _))) (show _ = some ("frame" : Bytes) by decide +kernel)
        (show bareFiles.read _ () = (.ok frameLevel.source, ()) by decide +kernel)
        (.last (hparsed _ (.tail _ (.tail _ (.head _)))) (by decide +kernel)))
  have huntouched : Untouched [bareLevel "layout", bareLevel "frame"] frameLevel.tree := by
    intro level hlevel attrs children _
    rw [htrees level hlevel, show replacement? [] = fun _ => none from rfl]
    simp
  obtain ⟨r, hr, hiff, hchains⟩ := render_parse_normal_form he
  obtain ⟨body, hbody, hresolves⟩ := hchains hnormal
  obtain rfl := Except.ok.inj (hbody.symm.trans hclosed)
  obtain ⟨resolved, hresolved⟩ := exists_ok_of_isSome hsome
  obtain ⟨hbegins, _⟩ := hresolves hchain (by simp) rfl huntouched hresolved
  exact ⟨r, resolved, he, hr, hiff.2 hnormal, hresolved, hbegins⟩

/-- A line feed at the beginning of a `pre` is written once more each time. Carriage returns in
comments, blanks in front of a doctype, zero bytes behind a `plaintext` and scripts without an end
are changed once. -/
theorem render_parse_changes :
    (render (Markup.parse "<pre>\na</pre>") = .ok "<pre>\n\na</pre>" ∧
      render (Markup.parse "<pre>\n\na</pre>") = .ok "<pre>\n\n\na</pre>") ∧
    (render (Markup.parse "<!--&#13;-->") = .ok "<!--\r-->" ∧
      render (Markup.parse "<!--\r-->") = .ok "<!--\n-->") ∧
    (render (Markup.parse "<!DOCTYPE &#32;html>") = .ok "<!DOCTYPE  html>" ∧
      render (Markup.parse "<!DOCTYPE  html>") = .ok "<!DOCTYPE html>") ∧
    (render (Markup.parse "<plaintext/>\x00") = .ok "<plaintext>\x00" ∧
      render (Markup.parse "<plaintext>\x00") = .ok "<plaintext>\uFFFD") ∧
    render (Markup.parse "<script><!--<script>") = .ok "<script><!--<script></script>" ∧
      render (Markup.parse "<script><!--<script></script>") =
        .ok "<script><!--<script></script></script>" := by
  decide +kernel

end Graft.Extend
