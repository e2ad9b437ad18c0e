import Graft.Proofs.Extend.Finished
import Graft.Proofs.Extend.Outcome
import Graft.Proofs.Extend.Untouched

/-!
# Graft.Proofs.Extend.Closed

Finished code is closed: its template has no directive and no extension point left, so that a
transform leaves it alone. It is read again as long as the start tags of its blocks end at their own
`>`.

* `lacks_closePoints`: no point is left in a tree whose points are closed.
* `transform_of_parse`: a component without directives is left alone.
* `transform_closed`: the code of an entry.
-/

namespace Graft.Extend

open Markup

variable {σ ε : Type}

/-! ## No points left -/

theorem lacks_closePoints (forest : List Node) :
    ∀ node ∈ closePoints forest, Lacks pointTag node := by
  rw [closePoints_eq]
  induction forest using forestInduction with
  | nil => simp [substituteAll]
  | leaf node rest hleaf ih =>
    rw [substituteAll_cons, substitute_leaf hleaf, List.forall_mem_cons]
    exact ⟨lacks_leaf hleaf, ih⟩
  | element name attrs children rest ihc ih =>
    rw [substituteAll_cons, List.forall_mem_cons]
    refine ⟨?_, ih⟩
    by_cases hname : name = pointTag
    · subst hname
      rw [substitute_kept (by simp)]
      exact lacks_element (by decide) ihc
    · rw [substitute_element hname]
      exact lacks_element hname ihc

theorem sound_parse_template {text body : Bytes} {forest : List Node} {read : Component}
    (hp : Component.parse .none text = .ok read) (ht : read.template.content = body)
    (hs : ∀ node ∈ forest, Sound node) (hr : render forest = .ok body) :
    ∀ node ∈ Markup.parse body, Sound node := by
  have htree : TemplateTree (Markup.parse read.template.content) := .parsed hp
  rw [ht] at htree
  refine htree.sound (addresses_eq_nil_iff.2 (lacks_parse_render hs (fun node hn => ?_) hr))
  exact lacks_of_shaped (by simp) (hs node hn)

/-- A finished template begins the code, and none of its elements is a point. -/
theorem closed_of_sound {tree : List Node} {closed : Bytes} (hs : ∀ node ∈ tree, Sound node)
    (hr : render (closePoints tree) = .ok closed) (a : Auxiliary) :
    BeginsWith (assemble [] closed a) ⟨BlockType.template, [], closed⟩ ∧
      addresses pointTag (Markup.parse closed) = [] :=
  ⟨(beginsWith_closed hs hr a).2, addresses_eq_nil_iff.2
    (lacks_parse_render (sound_closePoints hs) (lacks_closePoints tree) hr)⟩

/-! ## Transforming again -/

theorem transform_of_parse {code : Bytes} {c : Component} (hc : Component.parse .none code = .ok c)
    (hb : c.template.extends? = none) (hm : c.template.isExtendable = false) (files : Files σ ε)
    (opts : Options) (path : Bytes) (state : σ) :
    transform files opts path code state = ⟨.ok code, [], [], state⟩ := by
  obtain ⟨c', hc'⟩ := exists_parse hc opts.padding
  have hresolve : resolve files opts path code state = (.ok code, .start path state) :=
    Follows.eq (.last hc' (template_eq hc' hc ▸ hb))
  have hfinalize : finalize (ε := ε) code = .ok code := by
    unfold finalize
    rw [hc]
    dsimp only
    rw [if_neg (by simp [hm])]
  rw [transform_eq, hresolve]
  dsimp only
  rw [Except.bind, hfinalize, Walk.start, Bytes.sort, List.mergeSort_nil]

/-! ## The code of an entry -/

/-- The start tag ends at its own `>`, also when it is written a second time, as the start tags of an
entry with a base are. -/
def StaysClosed (c : Component) (b : Block) : Prop :=
  ClosesItself b.attrs ∧ (c.template.extends? ≠ none → ClosesItself (rereadAttrs b.attrs))

theorem written_ne_plaintext {pad : Padding} {source : Bytes} {c : Component}
    (h : Component.parse pad source = .ok c)
    (hplain : ∀ t ∈ tokens source, tagName t ≠ plaintextName) :
    ∀ b ∈ c.auxiliary.written, b.type ≠ plaintextName := by
  intro b hb
  obtain ⟨t, ht, hname⟩ := exists_tag_of_block h (mem_blocks hb)
  exact hname ▸ hplain t ht

/-- Code that is not the entry itself is a finished component: a sound tree with its points closed,
and blocks that were read. -/
theorem Finishes.exists_finished {pad : Padding} {source code : Bytes} {c : Component}
    (h : Finishes source c code) (hc : Component.parse pad source = .ok c)
    (hplain : ∀ t ∈ tokens source, tagName t ≠ plaintextName)
    (hd : c.template.extends? = none → c.template.isExtendable = true) :
    ∃ tree closed text read, (∀ node ∈ tree, Sound node) ∧
      render (closePoints tree) = .ok closed ∧ Component.parse .none text = .ok read ∧
      code = assemble [] closed read.auxiliary.stripped ∧
      ((∀ b ∈ c.auxiliary.written, StaysClosed c b) →
        ∀ b ∈ read.auxiliary.written, b.type ≠ plaintextName ∧ ClosesItself b.attrs) := by
  have hwritten := written_ne_plaintext hc hplain
  cases h with
  | plain hb hm =>
    rw [hd hb] at hm
    cases hm
  | @marked read closed hb hm hp hr =>
    refine ⟨_, closed, source, read, sound_template hp hplain, hr, hp, rfl, fun hcloses => ?_⟩
    exact forall_written (p := fun type attrs => type ≠ plaintextName ∧ ClosesItself attrs) hc hp
      fun b hmem => ⟨hwritten b hmem, (hcloses b hmem).1⟩
  | @merged target body closed forest read hb hs hr hp ht hclosed =>
    refine ⟨_, closed, _, read, sound_parse_template hp (by rw [ht]) hs hr, hclosed, hp, rfl,
      fun hcloses => ?_⟩
    have hread := parse_merged hc hs hr hwritten fun b hmem => (hcloses b hmem).1
    rw [hp] at hread
    rw [Except.ok.inj hread]
    dsimp only
    rw [written_reread, List.forall_mem_map]
    exact fun b hmem => ⟨hwritten b hmem, (hcloses b hmem).2 (by simp [hb])⟩

/-- The code of an entry without directives is the entry. Any other code, if the entry has no tag named
`plaintext`, begins with a template that has no attributes and no extension point; where the code is
read, a transform of it asks for nothing and returns it unchanged. It is read if the start tags of the
entry's blocks stay closed. -/
theorem transform_closed {files : Files σ ε} {opts : Options} {path source code : Bytes} {state : σ}
    (h : (transform files opts path source state).code = .ok code) :
    ∃ c, Component.parse .none source = .ok c ∧
      (c.template.extends? = none ∧ c.template.isExtendable = false → code = source) ∧
      (c.template.extends? ≠ none ∨ c.template.isExtendable = true →
        (∀ t ∈ tokens source, tagName t ≠ plaintextName) → ∃ body,
        BeginsWith code ⟨BlockType.template, [], body⟩ ∧
        addresses pointTag (Markup.parse body) = [] ∧
        (∀ pad c', Component.parse pad code = .ok c' →
          c'.template = ⟨BlockType.template, [], body⟩ ∧
          ∀ {σ' ε' : Type} (files' : Files σ' ε') (opts' : Options) (path' : Bytes) (state' : σ'),
            transform files' opts' path' code state' = ⟨.ok code, [], [], state'⟩ ∧
              (transform files' opts' path' code state').dependencies = []) ∧
        ((∀ b ∈ c.auxiliary.written, StaysClosed c b) →
          ∀ pad, ∃ c', Component.parse pad code = .ok c')) := by
  obtain ⟨entry, hentry, hfinishes⟩ := finishes_of_transform h
  obtain ⟨c, hc⟩ := exists_parse hentry .none
  have htemplate := template_eq hentry hc
  refine ⟨c, hc, ?_, fun hd hplain => ?_⟩
  · rintro ⟨hb, hm⟩
    cases hfinishes with
    | plain => rfl
    | marked _ hm' =>
      rw [htemplate, hm] at hm'
      cases hm'
    | merged hb' =>
      rw [htemplate, hb] at hb'
      cases hb'
  · obtain ⟨tree, body, text, read, hsound, hbody, hread, rfl, hcloses⟩ :=
      hfinishes.exists_finished hentry hplain (by
        rw [htemplate]
        intro hb
        exact hd.resolve_left fun hne => hne hb)
    obtain ⟨hbegins, hpoints⟩ := closed_of_sound hsound hbody read.auxiliary.stripped
    refine ⟨body, hbegins, hpoints, fun pad c' hc' => ?_, fun hentryCloses pad => ?_⟩
    · obtain ⟨c₀, hc₀⟩ := exists_parse hc' .none
      have ht := template_of_beginsWith hbegins rfl hc₀
      refine ⟨template_eq hc' hc₀ ▸ ht, fun files' opts' path' state' => ?_⟩
      have hagain :=
        transform_of_parse hc₀ (by rw [ht]; rfl) (by rw [ht]; rfl) files' opts' path' state'
      exact ⟨hagain, by rw [hagain]⟩
    -- the entry may have been read with padding, which its start tags do not depend on
    · have hblocks := hcloses (forall_written
        (p := fun _ attrs => ClosesItself attrs ∧
          (entry.template.extends? ≠ none → ClosesItself (rereadAttrs attrs)))
        hc hentry (by rw [htemplate]; exact hentryCloses))
      have htemplate := legible_template (sound_closePoints hsound) hbody (.inl rfl)
      exact exists_parse (parse_finished hread htemplate (fun b hb => (hblocks b hb).1)
        fun b hb => (hblocks b hb).2) pad

theorem transform_closed_page :
    (∀ t ∈ tokens pageSource, tagName t ≠ plaintextName) ∧
    ∃ code body c, (transform pageFiles ⟨2, .line⟩ "/page" pageSource ()).code = .ok code ∧
      BeginsWith code ⟨"template", [], body⟩ ∧ addresses pointTag (Markup.parse body) = [] ∧
      Component.parse .line code = .ok c ∧ c.template = ⟨"template", [], body⟩ ∧
      transform bareFiles ⟨1, .none⟩ "/other" code () = ⟨.ok code, [], [], ()⟩ := by
  obtain ⟨hplain, hparse, hsome⟩ :
      (∀ t ∈ tokens pageSource, tagName t ≠ plaintextName) ∧
        Component.parse .none pageSource =
          .ok ⟨⟨"template", [⟨"extends", "layout"⟩],
              "<extensions><extension point=\"b\">1" ++
                "<extension-point name=\"c\">2</extension-point></extension></extensions>"⟩,
            ⟨none, [⟨"style", [], "s"⟩], []⟩⟩ ∧
        (transform pageFiles ⟨2, .line⟩ "/page" pageSource ()).code.toOption.isSome = true := by
    decide +kernel
  obtain ⟨code, hcode⟩ := exists_ok_of_isSome hsome
  obtain ⟨c, hc, _, hdirected⟩ := transform_closed hcode
  rw [hparse] at hc
  cases hc
  obtain ⟨body, hbegins, hpoints, hagain, haccepted⟩ := hdirected (.inl (by decide +kernel)) hplain
  obtain ⟨c', hc'⟩ := haccepted (by
    intro b hb
    fin_cases hb
    exact ⟨⟨[], by decide +kernel⟩, fun _ => ⟨[], by decide +kernel⟩⟩) .line
  obtain ⟨htemplate, htransform⟩ := hagain .line c' hc'
  exact ⟨hplain, code, body, c', hcode, hbegins, hpoints, hc', htemplate,
    (htransform bareFiles ⟨1, .none⟩ "/other" ()).1⟩

/-- A key that stands alone and a key that begins with `=` are written as one attribute with a value
that has no end, and the code is not read. -/
theorem transform_unterminated :
    ∃ code,
      (∀ t ∈ tokens "<template extendable></template><docs a/=\"x></docs><i18n k=\"v\"></i18n>",
        tagName t ≠ plaintextName) ∧
      (transform bareFiles ⟨1, .none⟩ "/page"
        "<template extendable></template><docs a/=\"x></docs><i18n k=\"v\"></i18n>" ()).code.toOption =
          some code ∧
      code = "<template></template>\n<docs a =\"x></docs>\n<i18n k=\"v\"></i18n>" ∧
      Component.parse .none code = .error (.unterminated "docs" 2) :=
  ⟨"<template></template>\n<docs a =\"x></docs>\n<i18n k=\"v\"></i18n>", by decide +kernel⟩

end Graft.Extend
