import Graft.Proofs.Component.RoundTrip

/-!
# Graft.Proofs.Component.Template

The template of a component: its tree, and where it stands.

* `PairRun.not_endsInRaw`: a template does not end inside a raw element.
* `PairRun.reread`: the tokens of a template read alone.
* `shaped_template`, `sound_template`: the tree of a template.
* `template_eq`: padding leaves the template alone.
* `BeginsWith`: a source whose first part is a block.
* `beginsWith_assemble`, `template_of_beginsWith`: the template of a written component.
-/

namespace Graft

open Markup

/-! ## The tree of a template -/

/-- The end tag behind a run that ends in a raw element is that of the element. -/
theorem lower_of_endsInRaw {element : RawElement} {m mode : Mode} {ts : List Token} {stop : Token}
    {name s behind : Bytes} (h : Steps m s ts mode (stop.raw ++ behind)) (hstop : CloseTag stop name)
    (hraw : ∀ element, mode = .raw element → name.lower = element.name)
    (he : EndsInRaw element m ts) : name.lower = element.name := by
  induction ts generalizing m s with
  | nil =>
    cases h
    exact hraw element he
  | cons t ts ih =>
    obtain ⟨hscan, hrest⟩ := h.cases_cons
    rcases he with ⟨rfl, rfl, data, hk⟩ | he
    · rw [slices_nil, List.nil_append] at hscan
      rcases scan_raw_cases hscan with ⟨hc, _⟩ | ⟨_, name', ht, _⟩
      · have hend := startsRawEnd_contentRest element (t.raw ++ (stop.raw ++ behind))
        rw [hc] at hend
        exact (hstop.startsRawEnd_iff element behind).1
          (hend.resolve_left (hstop.append_ne_nil behind))
      · rw [ht.kind] at hk
        cases hk
    · exact ih hrest he

theorem not_alike_template (element : RawElement) :
    Fold.alike element.name BlockType.template = false := by
  cases element <;> decide +kernel

theorem PairRun.not_endsInRaw {start stop : Token} {inner : List Token}
    (h : PairRun start inner stop BlockType.template) (element : RawElement) :
    ¬ EndsInRaw element .markup inner := by
  intro he
  have hlower := lower_of_endsInRaw h.steps h.closeTag (fun e hm => (h.rawStop e hm).2) he
  have halike := Fold.alike_trans (Fold.alike_symm (Fold.alike_lower h.stopName)) h.alike
  rw [hlower, not_alike_template] at halike
  cases halike

theorem Markup.AgreeAll.endsInRaw {element : RawElement} {y : Bytes} {ts ts' : List Token}
    (h : AgreeAll y ts ts') {m : Mode} (he : EndsInRaw element m ts') : EndsInRaw element m ts := by
  induction h generalizing m with
  | nil => exact he
  | @cons t kind ts ts' hk hall ih =>
    rcases he with ⟨hm, rfl, data, hdata⟩ | he
    · cases hall
      refine .inl ⟨hm, rfl, data, ?_⟩
      rcases hk with rfl | ⟨_, _, _, _, rfl⟩
      · exact hdata
      · cases hdata
    · rw [hk.mode_eq] at he
      exact .inr (ih he)

theorem Markup.AgreeAll.tagName {y : Bytes} {named : Bytes → Prop} (hnil : named [])
    {ts ts' : List Token} (h : AgreeAll y ts ts') (hts : ∀ t ∈ ts, named (tagName t)) :
    ∀ t ∈ ts', named (Markup.tagName t) := by
  induction h with
  | nil => exact hts
  | @cons t kind ts ts' hk _ ih =>
    rw [List.forall_mem_cons] at hts ⊢
    refine ⟨?_, ih hts.2⟩
    rcases hk with rfl | ⟨_, _, _, _, rfl⟩
    · exact hts.1
    · exact hnil

theorem PairRun.reread {start stop : Token} {inner : List Token}
    (h : PairRun start inner stop BlockType.template) :
    Steps .markup (slices inner) (Markup.tokens (slices inner)) h.mode [] ∧
      RereadAll [] inner (Markup.tokens (slices inner)) := by
  obtain ⟨ts, hts, hall⟩ := h.steps.reread (y := []) (h.closeTag.append_ne_nil h.behind)
    (h.closeTag.stops h.behind) (by intro c hc; cases hc) (fun _ => .inl rfl) (fun _ _ _ => .inl rfl)
  rw [List.append_nil] at hts
  have htokens : Markup.tokens (slices inner) = ts := by
    have hrun := tokensFrom_of_steps hts
    rwa [tokensFrom_nil, List.append_nil] at hrun
  rw [htokens]
  exact ⟨hts, hall⟩

theorem PairRun.not_endsInRaw_alone {start stop : Token} {inner : List Token}
    (h : PairRun start inner stop BlockType.template) (element : RawElement) :
    ¬ EndsInRaw element .markup (Markup.tokens (slices inner)) := fun he =>
  h.not_endsInRaw element (h.reread.2.agreeAll.endsInRaw he)

theorem PairRun.shaped {start stop : Token} {inner : List Token} {named : Bytes → Prop}
    (h : PairRun start inner stop BlockType.template) (hnil : named [])
    (hp : ∀ t ∈ inner, named (tagName t)) :
    ∀ node ∈ Markup.parse (slices inner), Shaped named RawData node := by
  obtain ⟨hsteps, hall⟩ := h.reread
  refine sound_of_steps hsteps (.markup .empty) (hall.agreeAll.tagName hnil hp) ?_
  intro element he
  exact h.not_endsInRaw_alone element he

theorem exists_part_of_template {pad : Padding} {source : Bytes} {c : Component}
    (h : Component.parse pad source = .ok c) :
    ∃ parts, Factors parts (Markup.tokens source) ∧ ∃ part ∈ parts, part.block? = some c.template := by
  obtain ⟨parts, hparts, hdist, _⟩ := parse_ok_iff.1 h
  obtain ⟨part, hpart, n, hn⟩ := exists_of_mem_blocksFrom (hdist.mem (List.mem_cons_self ..))
  refine ⟨parts, hparts, part, hpart, ?_⟩
  cases part with
  | gap t => cases hn
  | single t => exact hn
  | pair start inner stop =>
    have htype := hdist.placed.1
    have hname : tagName start = BlockType.template := by
      rw [← htype, ← Option.some.inj hn]
    rw [← hn, Part.padded?, Part.block?, hname]
    cases pad <;> rfl

theorem shaped_template {pad : Padding} {source : Bytes} {c : Component} {named : Bytes → Prop}
    (h : Component.parse pad source = .ok c) (hnil : named [])
    (hp : ∀ t ∈ Markup.tokens source, named (tagName t)) :
    ∀ node ∈ Markup.parse c.template.content, Shaped named RawData node := by
  have htype : c.template.type = BlockType.template := by
    obtain ⟨_, _, hdist, _⟩ := parse_ok_iff.1 h
    exact hdist.placed.1
  obtain ⟨parts, hparts, part, hpart, hblock⟩ := exists_part_of_template h
  obtain ⟨s, s', hsteps⟩ := hparts.exists_steps hpart
  have hw := hparts.wellFormed part hpart
  cases part with
  | gap t => cases hblock
  | single t =>
    rw [← Option.some.inj hblock]
    intro node hn
    have hnil : Markup.parse [] = [] := by rw [Markup.parse, Markup.tokens, tokensFrom_nil]; rfl
    rw [hnil] at hn
    cases hn
  | pair start inner stop =>
    obtain ⟨name, ⟨run⟩⟩ := exists_pairRun hw hsteps
    have hname : name = BlockType.template := by
      rw [← htype, ← Option.some.inj hblock, ← run.openTag.tagName]
    subst hname
    rw [← Option.some.inj hblock]
    refine run.shaped hnil fun t ht => hp t ?_
    rw [← hparts.tokens]
    refine List.mem_flatMap.2 ⟨_, hpart, ?_⟩
    rw [Part.tokens]
    exact List.mem_cons_of_mem _ (List.mem_append_left _ ht)

/-- The tree of a template is sound, unless a tag turns everything behind it to text. -/
theorem sound_template {pad : Padding} {source : Bytes} {c : Component}
    (h : Component.parse pad source = .ok c)
    (hp : ∀ t ∈ Markup.tokens source, tagName t ≠ plaintextName) :
    ∀ node ∈ Markup.parse c.template.content, Sound node :=
  shaped_template h (by decide) hp

/-! ## Where the template stands -/

theorem template_blocksFrom (pad : Padding) (feeds : Nat) (parts : List Part) :
    ofType BlockType.template (blocksFrom pad feeds parts) =
      ofType BlockType.template (blocksOf parts) := by
  induction parts generalizing feeds with
  | nil => rfl
  | cons part parts ih =>
    rw [blocksFrom, blocksOf_cons, ofType_append, ofType_append, ih]
    congr 1
    cases part with
    | gap t => rfl
    | single t => rfl
    | pair start inner stop =>
      by_cases hname : tagName start = BlockType.template
      · rw [Part.padded?, Part.block?, hname]
        cases pad <;> rfl
      · rw [ofType_of_none (by simpa [Part.padded?] using hname),
          ofType_of_none (by simpa [Part.block?] using hname)]

theorem template_eq {pad pad' : Padding} {source : Bytes} {c c' : Component}
    (h : Component.parse pad source = .ok c) (h' : Component.parse pad' source = .ok c') :
    c.template = c'.template := by
  obtain ⟨parts, hparts, hdist, _⟩ := parse_ok_iff.1 h
  obtain ⟨parts', hparts', hdist', _⟩ := parse_ok_iff.1 h'
  rw [hparts.unique hparts'] at hdist
  have ht := hdist.template
  have ht' := hdist'.template
  rw [template_blocksFrom] at ht ht'
  rw [ht] at ht'
  exact (List.cons.inj ht').1

/-- A source whose first part is a block. -/
def BeginsWith (source : Bytes) (b : Block) : Prop :=
  ∃ (part : Part) (us : List Token), part.WellFormed ∧ part.block? = some b ∧
    Markup.tokens source = part.tokens ++ us

/-- The block that a source begins with is its first one. -/
theorem BeginsWith.exists_blocks {source : Bytes} {b : Block} {parts : List Part}
    (h : BeginsWith source b) (hparts : Factors parts (Markup.tokens source)) :
    ∃ bs, blocksOf parts = b :: bs := by
  obtain ⟨part, us, hw, hblock, htokens⟩ := h
  cases parts with
  | nil =>
    have := hparts.tokens
    rw [htokens] at this
    exact absurd (List.append_eq_nil_iff.1 this.symm).1 part.tokens_ne_nil
  | cons first parts =>
    have he := hparts.tokens.trans htokens
    rw [List.flatMap_cons] at he
    obtain ⟨rfl, _⟩ := Part.unique (hparts.wellFormed _ (List.mem_cons_self ..)) hw he
    exact ⟨_, by rw [blocksOf, List.filterMap_cons_some hblock]⟩

/-- A template that stands first is the template of the component. -/
theorem template_of_beginsWith {source : Bytes} {b : Block} {c : Component}
    (h : BeginsWith source b) (hb : b.type = BlockType.template)
    (hc : Component.parse .none source = .ok c) : c.template = b := by
  obtain ⟨parts, hparts, hdist, _⟩ := parse_ok_iff.1 hc
  obtain ⟨bs, hblocks⟩ := h.exists_blocks hparts
  have htemplate := hdist.template
  rw [blocksFrom_none, hblocks, ofType,
    List.filter_cons_of_pos (by rw [hb, beq_self_eq_true])] at htemplate
  exact (List.cons.inj htemplate).1.symm

theorem beginsWith_assemble {attrs : List Attr} {body : Bytes}
    (h : Legible ⟨BlockType.template, attrs, body⟩) (a : Auxiliary) :
    BeginsWith (assemble attrs body a) ⟨BlockType.template, rereadAttrs attrs, body⟩ := by
  obtain ⟨part, hw, hblock, hsteps⟩ := h.exists_part (("\n" : Bytes) ++ a.source)
  rw [← assemble_eq] at hsteps
  exact ⟨part, _, hw, hblock, tokensFrom_of_steps hsteps⟩

end Graft
