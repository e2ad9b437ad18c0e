import Graft.Proofs.Component.Reassembled
import Graft.Proofs.Extend.Followed
import Graft.Proofs.Extend.TemplateTree
import Graft.Proofs.Markup.Lacking

/-!
# Graft.Proofs.Extend.Finished

What a transform that succeeds has done with its entry, and how the code it returns is read.

* `Finishes`: the three ways from an entry to its code.
* `finishes_of_transform`: there is no other.
* `parse_merged`, `parse_finished`: a merged entry and a finished one as they are read.
-/

namespace Graft

open Markup

/-- The blocks beside the template with the filler taken off the script. -/
def Auxiliary.stripped (a : Auxiliary) : Auxiliary :=
  { a with script := a.script.map fun b => { b with content := Extend.stripPadding b.content } }

/-- A block as finishing writes it. -/
def Block.stripped (b : Block) : Block :=
  if b.type = BlockType.script then { b with content := Extend.stripPadding b.content } else b

theorem Block.attrs_stripped (b : Block) : b.stripped.attrs = b.attrs := by
  unfold stripped
  split <;> rfl

theorem Block.type_stripped (b : Block) : b.stripped.type = b.type := by
  unfold stripped
  split <;> rfl

theorem Block.stripped_of_ne {b : Block} (h : b.type ≠ BlockType.script) : b.stripped = b := if_neg h

theorem Placed.stripped {a : Auxiliary} (h : Placed a) : Placed a.stripped where
  script := by
    intro b hb
    obtain ⟨b', hb', rfl⟩ := Option.map_eq_some_iff.1 hb
    exact h.script b' hb'
  styles := h.styles
  custom := h.custom

theorem Placed.written_stripped {a : Auxiliary} (h : Placed a) :
    a.stripped.written = a.written.map Block.stripped := by
  have hcustom : (a.custom.filter fun b => b.type != BlockType.extension).map Block.stripped =
      a.custom.filter fun b => b.type != BlockType.extension := by
    refine (List.map_congr_left fun b hb => ?_).trans (List.map_id _)
    exact Block.stripped_of_ne (h.custom b (List.mem_filter.1 hb).1).2.1
  have hstyles : a.styles.map Block.stripped = a.styles := by
    refine (List.map_congr_left fun b hb => Block.stripped_of_ne ?_).trans (List.map_id _)
    rw [h.styles b hb]
    decide
  have hscript : a.stripped.script.toList = a.script.toList.map Block.stripped := by
    cases hs : a.script with
    | none => simp [Auxiliary.stripped, hs]
    | some b => simp [Auxiliary.stripped, hs, Block.stripped, h.script b hs]
  rw [Auxiliary.written, Auxiliary.written, List.map_append, List.map_append, hcustom, hstyles,
    ← hscript]
  rfl

theorem written_reread (a : Auxiliary) : a.reread.written = a.written.map Block.reread := by
  have hcustom : a.reread.custom.filter (fun b => b.type != BlockType.extension) =
      a.reread.custom := by
    refine List.filter_eq_self.2 fun b hb => ?_
    obtain ⟨b', hb', rfl⟩ := List.mem_map.1 hb
    exact (List.mem_filter.1 hb').2
  rw [Auxiliary.written, hcustom, Auxiliary.written, List.map_append, List.map_append]
  cases hs : a.script <;> simp [Auxiliary.reread, hs]

/-- The line that pads a script. -/
def fillerLine : Bytes := "//\n"

theorem Extend.stripPadding_spec (s : Bytes) :
    (∃ n, s = Bytes.repeated n fillerLine ++ Extend.stripPadding s) ∧
      ¬ fillerLine <+: Extend.stripPadding s := by
  fun_induction Extend.stripPadding s with
  | case1 a b c rest h ih =>
    obtain ⟨⟨n, hrest⟩, hstop⟩ := ih
    obtain ⟨rfl, rfl, rfl⟩ := h
    refine ⟨⟨n + 1, ?_⟩, hstop⟩
    rw [Bytes.repeated, List.replicate_succ, List.flatten_cons, List.append_assoc, ← Bytes.repeated,
      ← hrest]
    rfl
  | case2 a b c rest h =>
    refine ⟨⟨0, rfl⟩, ?_⟩
    rintro ⟨more, hmore⟩
    obtain ⟨ha, hmore⟩ := List.cons.inj hmore
    obtain ⟨hb, hmore⟩ := List.cons.inj hmore
    exact h ⟨ha.symm, hb.symm, (List.cons.inj hmore).1.symm⟩
  | case3 short hshort =>
    refine ⟨⟨0, rfl⟩, ?_⟩
    rintro ⟨more, rfl⟩
    exact hshort _ _ _ more rfl

/-- A block can be written without the filler in front of it. -/
theorem Legible.stripped {b : Block} (h : Legible b) : Legible b.stripped where
  isName := by rw [b.type_stripped]; exact h.isName
  isKey := by rw [b.attrs_stripped]; exact h.isKey
  closes := by rw [b.attrs_stripped]; exact h.closes
  enclosed := by
    unfold Block.stripped
    split
    · rename_i ht
      obtain ⟨⟨n, hcontent⟩, _⟩ := Extend.stripPadding_spec b.content
      have hfiller : Byte.lt ∉ Bytes.repeated n fillerLine := by
        intro hmem
        obtain ⟨line, hline, hlt⟩ := List.mem_flatten.1 hmem
        rw [(List.mem_replicate.1 hline).2] at hlt
        exact absurd hlt (by decide)
      have henclosed : Enclosed RawElement.script.name b.content := by
        have henclosed := h.enclosed
        rwa [ht] at henclosed
      rw [ht]
      exact enclosed_of_append (by decide) hfiller (hcontent ▸ henclosed)
    · exact h.enclosed

namespace Extend

variable {σ ε : Type}

/-! ## From an entry to its code -/

/-- The marker of a merged level. -/
abbrev marker : List Attr := [⟨Directive.extendable, []⟩]

theorem legible_marker : Legible ⟨BlockType.template, marker, []⟩ :=
  legible_template (List.forall_mem_nil _) rfl (.inr rfl)

/-- The three ways from an entry to its code: as it is, finished, or merged and finished. -/
inductive Finishes (source : Bytes) (c : Component) : Bytes → Prop where
  | plain (hb : c.template.extends? = none) (hm : c.template.isExtendable = false) :
      Finishes source c source
  | marked {read : Component} {closed : Bytes} (hb : c.template.extends? = none)
      (hm : c.template.isExtendable = true) (hp : Component.parse .none source = .ok read)
      (hr : render (closePoints (Markup.parse read.template.content)) = .ok closed) :
      Finishes source c (assemble [] closed read.auxiliary.stripped)
  | merged {target body closed : Bytes} {forest : List Node} {read : Component}
      (hb : c.template.extends? = some target) (hs : ∀ node ∈ forest, Sound node)
      (hr : render forest = .ok body)
      (hp : Component.parse .none (assemble marker body c.auxiliary) = .ok read)
      (ht : read.template = ⟨BlockType.template, marker, body⟩)
      (hc : render (closePoints (Markup.parse body)) = .ok closed) :
      Finishes source c (assemble [] closed read.auxiliary.stripped)

theorem finalize_cases {text code : Bytes} (h : finalize (ε := ε) text = .ok code) :
    ∃ c, Component.parse .none text = .ok c ∧
      (c.template.isExtendable = false ∧ code = text ∨
        c.template.isExtendable = true ∧ ∃ closed,
          render (closePoints (Markup.parse c.template.content)) = .ok closed ∧
          code = assemble [] closed c.auxiliary.stripped) := by
  unfold finalize at h
  split at h
  · cases h
  rename_i c hc
  refine ⟨c, hc, ?_⟩
  split at h
  · rename_i hm
    dsimp only at h
    split at h
    · cases h
    rename_i closed hclosed
    cases h
    exact .inr ⟨hm, closed, hclosed, rfl⟩
  · rename_i hm
    cases h
    exact .inl ⟨by simpa using hm, rfl⟩

/-- The tree of a merged level, whatever is in it. -/
theorem exists_tree_of_merge {pad : Padding} {source baseSource m : Bytes} {child base : Component}
    (hchild : Component.parse pad source = .ok child)
    (hbase : Component.parse .none baseSource = .ok base) (h : merge child base = .ok m) :
    ∃ forest body, (∀ node ∈ forest, Shaped (fun _ => True) RawData node) ∧
      render forest = .ok body ∧ m = assemble marker body child.auxiliary := by
  obtain ⟨all, forest, body, hall, hforest, hbody, rfl⟩ := exists_of_merge h
  have htree : TemplateTree forest := .spliced (.parsed hbase) (.parsed hchild) hall hforest
  exact ⟨forest, body, htree.shaped, hbody, rfl⟩

theorem template_of_parse_merged {forest : List Node} {body : Bytes} {a : Auxiliary} {c : Component}
    (hs : ∀ node ∈ forest, Shaped (fun _ => True) RawData node) (hr : render forest = .ok body)
    (hc : Component.parse .none (assemble marker body a) = .ok c) :
    (∀ node ∈ forest, Sound node) ∧ c.template = ⟨BlockType.template, marker, body⟩ := by
  have hsound := sound_of_parse_assemble legible_marker.isKey legible_marker.closes hs hr hc
  have hbegins := beginsWith_assemble (legible_template hsound hr (.inr rfl)) a
  rw [rereadAttrs_extendable] at hbegins
  exact ⟨hsound, template_of_beginsWith hbegins rfl hc⟩

theorem finishes_of_transform {files : Files σ ε} {opts : Options} {path source code : Bytes}
    {state : σ} (h : (transform files opts path source state).code = .ok code) :
    ∃ c, Component.parse opts.padding source = .ok c ∧ Finishes source c code := by
  obtain ⟨resolved, hresolved, hcode⟩ : ∃ resolved,
      (resolve files opts path source state).1 = .ok resolved ∧
        finalize (ε := ε) resolved = .ok code := by
    rw [transform_code] at h
    cases hresolved : (resolve files opts path source state).1 with
    | error e =>
      rw [hresolved] at h
      cases h
    | ok resolved =>
      rw [hresolved] at h
      exact ⟨resolved, rfl, h⟩
  have hfollows := follows_resolve files opts path source state
  rw [hresolved] at hfollows
  generalize (resolve files opts path source state).2 = walk at hfollows
  generalize opts.maxDepth = levels at hfollows
  generalize hout : (Except.ok resolved : Except (ChainError ε) Bytes) = out at hfollows
  cases hfollows with
  | malformed | tooDeep | circular | missing => cases hout
  | @last _ _ _ _ _ c hp ht =>
    cases hout
    refine ⟨c, hp, ?_⟩
    obtain ⟨read, hread, hcases⟩ := finalize_cases hcode
    have htemplate := template_eq hread hp
    rw [htemplate] at hcases
    rcases hcases with ⟨hm, rfl⟩ | ⟨hm, closed, hclosed, rfl⟩
    · exact .plain ht hm
    · exact .marked ht hm hread (htemplate ▸ hclosed)
  | @followed _ _ _ _ _ _ _ _ c _ out' hp ht _ _ hrest =>
    refine ⟨c, hp, ?_⟩
    cases out' with
    | error e => cases hout
    | ok below =>
      rcases mergeInto_cases (ε := ε) _ true path (Path.base path _) below with
        ⟨e, _, hm⟩ | ⟨next, hnext, ⟨e, _, hm⟩ | ⟨all, _, ⟨_, hm⟩ | ⟨_, merged, hmerge, hm⟩⟩⟩
      · rw [hm] at hout
        cases hout
      · rw [hm] at hout
        cases hout
      · rw [hm] at hout
        cases hout
      · rw [hm] at hout
        cases hout
        obtain ⟨forest, body, hshaped, hbody, rfl⟩ := exists_tree_of_merge hp hnext hmerge
        obtain ⟨read, hread, hcases⟩ := finalize_cases hcode
        obtain ⟨hsound, htemplate⟩ := template_of_parse_merged hshaped hbody hread
        rw [htemplate] at hcases
        rcases hcases with ⟨hm, _⟩ | ⟨_, closed, hclosed, rfl⟩
        -- a merged level carries the marker, so it is never returned as it is
        · cases hm
        · exact .merged ht hsound hbody hread htemplate hclosed

/-! ## Reading the code -/

theorem parse_merged {pad : Padding} {source body : Bytes} {c : Component} {forest : List Node}
    (hc : Component.parse pad source = .ok c) (hs : ∀ node ∈ forest, Sound node)
    (hr : render forest = .ok body) (hplain : ∀ b ∈ c.auxiliary.written, b.type ≠ plaintextName)
    (hcloses : ∀ b ∈ c.auxiliary.written, ClosesItself b.attrs) :
    Component.parse .none (assemble marker body c.auxiliary) =
      .ok ⟨⟨BlockType.template, marker, body⟩, c.auxiliary.reread⟩ := by
  obtain ⟨_, _, hdist, _⟩ := parse_ok_iff.1 hc
  have hparse := parse_assemble (legible_template hs hr (.inr rfl))
    (fun b hb => (soundBlock_of_parse hc (mem_blocks hb) (hplain b hb)).legible (hcloses b hb))
    hdist.placed.2 (by rw [rereadAttrs_extendable]; exact validDirectives_extendable body)
  rwa [rereadAttrs_extendable] at hparse

/-- A merged entry that is read at all is read back as it was written. -/
theorem read_of_parse_merged {pad : Padding} {source body : Bytes} {c read : Component}
    {forest : List Node} (hc : Component.parse pad source = .ok c)
    (hs : ∀ node ∈ forest, Sound node) (hr : render forest = .ok body)
    (hcloses : ∀ b ∈ c.auxiliary.written, ClosesItself b.attrs)
    (hp : Component.parse .none (assemble marker body c.auxiliary) = .ok read) :
    (∀ b ∈ c.auxiliary.written, b.type ≠ plaintextName) ∧ read.auxiliary = c.auxiliary.reread := by
  have hplain := ne_plaintext_of_parse_assemble (legible_template hs hr (.inr rfl))
    (fun b hb => soundTag_of_parse hc (mem_blocks hb))
    (fun b hb hne => (soundBlock_of_parse hc (mem_blocks hb) hne).legible (hcloses b hb)) hcloses hp
  have hread := parse_merged hc hs hr hplain hcloses
  rw [hp] at hread
  exact ⟨hplain, by rw [Except.ok.inj hread]⟩

theorem validDirectives_nil (body : Bytes) : ValidDirectives ⟨BlockType.template, [], body⟩ :=
  ⟨fun _ hval => (by cases hval), fun _ hval => (by cases hval)⟩

/-- The blocks of a component that was read can be written without the filler of the script. -/
theorem legible_stripped {text : Bytes} {read : Component}
    (hp : Component.parse .none text = .ok read)
    (hplain : ∀ b ∈ read.auxiliary.written, b.type ≠ plaintextName)
    (hcloses : ∀ b ∈ read.auxiliary.written, ClosesItself b.attrs) :
    ∀ b ∈ read.auxiliary.stripped.written, Legible b := by
  obtain ⟨_, _, hdist, _⟩ := parse_ok_iff.1 hp
  rw [hdist.placed.2.written_stripped, List.forall_mem_map]
  intro b hb
  exact ((soundBlock_of_parse hp (mem_blocks hb) (hplain b hb)).legible (hcloses b hb)).stripped

theorem parse_finished {text closed : Bytes} {read : Component}
    (hp : Component.parse .none text = .ok read)
    (ht : Legible ⟨BlockType.template, [], closed⟩)
    (hplain : ∀ b ∈ read.auxiliary.written, b.type ≠ plaintextName)
    (hcloses : ∀ b ∈ read.auxiliary.written, ClosesItself b.attrs) :
    Component.parse .none (assemble [] closed read.auxiliary.stripped) =
      .ok ⟨⟨BlockType.template, [], closed⟩, read.auxiliary.stripped.reread⟩ := by
  obtain ⟨_, _, hdist, _⟩ := parse_ok_iff.1 hp
  have hparse := parse_assemble ht (legible_stripped hp hplain hcloses) hdist.placed.2.stripped
    (by rw [rereadAttrs_nil]; exact validDirectives_nil closed)
  rwa [rereadAttrs_nil] at hparse

end Extend

end Graft
