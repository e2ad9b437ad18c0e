import Graft.Proofs.Component.Outlined
import Graft.Proofs.Extend.Interchanged
import Graft.Proofs.Extend.PassedThrough

/-!
# Graft.Proofs.Extend.PadMode

A transform with padding and one without. They ask for the same paths, fail in the same way or not at
all, and return codes that differ in the line feeds in front of contents.

* `rereadAlike_padded`: padding does not decide whether a merged level is read.
* `finalize_alike`: finishing a merged entry.
* `Repadded`: a block of both codes.
* `transform_padded`: the two transforms.
-/

namespace Graft.Extend

open Markup

variable {σ ε : Type}

/-! ## Merged levels -/

theorem exists_parse_merged {forest : List Node} {body : Bytes} {a a' : Auxiliary} {c : Component}
    (hs : ∀ node ∈ forest, Shaped (fun _ => True) RawData node) (hr : render forest = .ok body)
    (ho : outline (tokens (assemble marker body a)) = outline (tokens (assemble marker body a')))
    (hc : Component.parse .none (assemble marker body a) = .ok c) :
    ∃ c', Component.parse .none (assemble marker body a') = .ok c' := by
  have hsound := (template_of_parse_merged hs hr hc).1
  have hbegins := beginsWith_assemble (legible_template hsound hr (.inr rfl)) a'
  rw [rereadAttrs_extendable] at hbegins
  exact exists_parse_of_outline hc ho hbegins rfl (validDirectives_extendable body)

theorem rereadAlike_padded {pad pad' : Padding} {source : Bytes} {c c' : Component}
    (hc : Component.parse pad source = .ok c) (hc' : Component.parse pad' source = .ok c') :
    RereadAlike c.auxiliary c'.auxiliary := by
  obtain ⟨parts, _, hscript, hparse⟩ := parse_padded hc
  have hread := Except.ok.inj (hc.symm.trans (hparse pad))
  have hread' := Except.ok.inj (hc'.symm.trans (hparse pad'))
  have haux : c.auxiliary = _ := congrArg Component.auxiliary hread
  have haux' : c'.auxiliary = _ := congrArg Component.auxiliary hread'
  rw [haux, haux']
  intro forest body hs hr
  have ho := (outline_spread (spread_assemble marker body hscript pad)).symm.trans
    (outline_spread (spread_assemble marker body hscript pad'))
  exact ⟨fun ⟨r, hread⟩ => exists_parse_merged hs hr ho hread,
    fun ⟨r, hread⟩ => exists_parse_merged hs hr ho.symm hread⟩

theorem sourceAlike_padded (pad pad' : Padding) (source : Bytes) :
    SourceAlike pad pad' source source := by
  unfold SourceAlike
  cases hc : Component.parse pad source with
  | ok c =>
    obtain ⟨c', hc'⟩ := exists_parse hc pad'
    have ht := template_eq hc hc'
    rw [hc']
    exact .ok ⟨by rw [ht], by rw [ht], rereadAlike_padded hc hc'⟩
  | error e =>
    cases hc' : Component.parse pad' source with
    | error e' => exact .error trivial
    | ok c' =>
      obtain ⟨c, hread⟩ := exists_parse hc' pad
      rw [hc] at hread
      cases hread

theorem filesAlike_padded (pad pad' : Padding) (files : Files σ ε) :
    FilesAlike pad pad' files files := by
  intro path state
  refine ⟨rfl, ?_⟩
  cases (files.ask path state).1 with
  | error e => exact .error trivial
  | ok data => exact .ok (sourceAlike_padded pad pad' data)

theorem finalize_alike {forest : List Node} {body : Bytes} {a a' : Auxiliary}
    (hs : ∀ node ∈ forest, Shaped (fun _ => True) RawData node) (hr : render forest = .ok body)
    (h : RereadAlike a a') :
    Alike SameKind (fun code code' => ∃ read read' closed,
        Component.parse .none (assemble marker body a) = .ok read ∧
        Component.parse .none (assemble marker body a') = .ok read' ∧
        render (closePoints (Markup.parse body)) = .ok closed ∧
        code = assemble [] closed read.auxiliary.stripped ∧
        code' = assemble [] closed read'.auxiliary.stripped)
      (finalize (ε := ε) (assemble marker body a)) (finalize (ε := ε) (assemble marker body a')) := by
  unfold finalize
  have hiff := h hs hr
  cases hread : Component.parse .none (assemble marker body a) with
  | error e =>
    cases hread' : Component.parse .none (assemble marker body a') with
    | error e' => exact .error rfl
    | ok read' =>
      obtain ⟨read, hok⟩ := hiff.2 ⟨read', hread'⟩
      rw [hread] at hok
      cases hok
  | ok read =>
    obtain ⟨read', hread'⟩ := hiff.1 ⟨read, hread⟩
    have ht := (template_of_parse_merged hs hr hread).2
    have ht' := (template_of_parse_merged hs hr hread').2
    have hmarked : (⟨BlockType.template, marker, body⟩ : Block).isExtendable = true := rfl
    rw [hread']
    dsimp only
    rw [ht, ht', if_pos hmarked, if_pos hmarked]
    cases hclosed : render (closePoints (Markup.parse body)) with
    | error e => exact .error rfl
    | ok closed => exact .ok ⟨read, read', closed, rfl, rfl, rfl, rfl, rfl⟩

/-! ## Contents -/

theorem stripPadding_fillerLine (s : Bytes) : stripPadding (fillerLine ++ s) = stripPadding s := by
  change stripPadding (Byte.slash :: Byte.slash :: Byte.lf :: s) = _
  rw [stripPadding, if_pos ⟨rfl, rfl, rfl⟩]

theorem stripPadding_repeated (n : Nat) (s : Bytes) :
    stripPadding (Bytes.repeated n fillerLine ++ s) = stripPadding s := by
  induction n with
  | zero => rfl
  | succ n ih =>
    rw [Bytes.repeated, List.replicate_succ, List.flatten_cons, List.append_assoc,
      stripPadding_fillerLine]
    exact ih

/-- A text that does not begin with filler is left alone. -/
theorem stripPadding_of_not_prefix {s : Bytes} (h : ¬ fillerLine <+: s) : stripPadding s = s := by
  unfold stripPadding
  split
  · rename_i a b c rest
    refine if_neg fun ⟨ha, hb, hc⟩ => h ⟨rest, ?_⟩
    rw [ha, hb, hc]
    rfl
  · rfl

theorem not_fillerLine_prefix_lf (s : Bytes) : ¬ fillerLine <+: Byte.lf :: s := by
  rintro ⟨t, ht⟩
  exact absurd (List.cons.inj ht).1 (by decide)

theorem not_fillerLine_prefix_repeated {s : Bytes} (h : ¬ fillerLine <+: s) (n : Nat) :
    ¬ fillerLine <+: Bytes.repeated n "\n" ++ s := by
  cases n with
  | zero => exact h
  | succ n =>
    rw [Bytes.repeated, List.replicate_succ, List.flatten_cons, List.append_assoc]
    exact not_fillerLine_prefix_lf _

/-! ## Blocks -/

/-- A block of the entry as it stands in the code, with the line feeds in front of its content. -/
def delivered (pad : Padding) (p : Block × Nat) : Block := (p.1.padded pad p.2).reread.stripped.reread

theorem content_delivered_script {p : Block × Nat} (h : p.1.type = BlockType.script) (pad : Padding) :
    (delivered pad p).content =
      stripPadding (padding pad p.1.type p.1.attrs p.2 ++ p.1.content) := by
  unfold delivered Block.stripped
  rw [if_pos (show (p.1.padded pad p.2).reread.type = BlockType.script from h)]
  rfl

theorem content_delivered {p : Block × Nat} (h : p.1.type ≠ BlockType.script) (pad : Padding) :
    (delivered pad p).content = padding pad p.1.type p.1.attrs p.2 ++ p.1.content := by
  unfold delivered
  rw [Block.stripped_of_ne (show (p.1.padded pad p.2).reread.type ≠ BlockType.script from h)]
  rfl

theorem attrs_delivered (pad : Padding) (p : Block × Nat) :
    (delivered pad p).attrs = rereadAttrs (rereadAttrs p.1.attrs) := by
  unfold delivered
  rw [Block.reread, Block.attrs_stripped]
  rfl

theorem type_delivered (pad : Padding) (p : Block × Nat) : (delivered pad p).type = p.1.type :=
  Block.type_stripped _

/-- One block of both codes, the first without and the second with padding, if `feeds` line feeds
stand in front of its content in the entry. -/
structure Repadded (b : Block) (feeds : Nat) (plain padded : Block) : Prop where
  type : plain.type = b.type ∧ padded.type = b.type
  attrs : padded.attrs = plain.attrs
  script : b.type = BlockType.script → Attrs.has "lang" b.attrs = false →
    padded.content = plain.content
  lines : (b.type = BlockType.script → Attrs.has "lang" b.attrs = true ∧ ¬ fillerLine <+: b.content) →
    padded.content = Bytes.repeated feeds "\n" ++ plain.content

theorem repadded_delivered {p : Block × Nat} (ht : p.1.type ≠ BlockType.template) :
    Repadded p.1 p.2 (delivered .none p) (delivered .line p) where
  type := ⟨type_delivered .none p, type_delivered .line p⟩
  attrs := by rw [attrs_delivered, attrs_delivered]
  script := by
    intro hs hlang
    have hfiller : filler p.1.type p.1.attrs = fillerLine := if_pos ⟨hs, by simp [hlang]⟩
    rw [content_delivered_script hs, content_delivered_script hs, padding, padding, if_neg ht, hfiller,
      stripPadding_repeated]
    rfl
  lines := by
    intro h
    by_cases hs : p.1.type = BlockType.script
    · obtain ⟨hlang, hstart⟩ := h hs
      have hfiller : filler p.1.type p.1.attrs = "\n" := if_neg fun hf => hf.2 hlang
      rw [content_delivered_script hs, content_delivered_script hs, padding, padding, if_neg ht,
        hfiller, stripPadding_of_not_prefix (not_fillerLine_prefix_repeated hstart _),
        List.nil_append, stripPadding_of_not_prefix hstart]
    · have hfiller : filler p.1.type p.1.attrs = "\n" := if_neg fun hf => hs hf.1
      rw [content_delivered hs, content_delivered hs, padding, padding, if_neg ht, hfiller,
        List.nil_append]

theorem exists_parts_finished {pad : Padding} {source body closed : Bytes} {c read : Component}
    {forest : List Node} {parts : List Part} (hparts : Factors parts (tokens source))
    (hc : Component.parse pad source = .ok c)
    (hs : ∀ node ∈ forest, Shaped (fun _ => True) RawData node) (hr : render forest = .ok body)
    (hread : Component.parse .none (assemble marker body c.auxiliary) = .ok read)
    (hclosed : render (closePoints (Markup.parse body)) = .ok closed)
    (hcloses : ∀ b ∈ c.auxiliary.written, ClosesItself b.attrs ∧ ClosesItself (rereadAttrs b.attrs)) :
    ∃ parts', Factors parts' (tokens (assemble [] closed read.auxiliary.stripped)) ∧
      blocksOf parts' = ⟨BlockType.template, [], closed⟩ ::
        (countedWritten (countedFrom 0 parts)).map (delivered pad) := by
  have hsound := (template_of_parse_merged hs hr hread).1
  obtain ⟨hne, haux⟩ := read_of_parse_merged hc hsound hr (fun b hb => (hcloses b hb).1) hread
  have hwritten : read.auxiliary.written = c.auxiliary.written.map Block.reread := by
    rw [haux, written_reread]
  have hlegible := legible_stripped hread (by rw [hwritten, List.forall_mem_map]; exact hne)
    (by rw [hwritten, List.forall_mem_map]; exact fun b hb => (hcloses b hb).2)
  have htemplate := (template_of_parse_merged hs hr hread).2
  have htree := sound_parse_template hread (by rw [htemplate]) hsound hr
  obtain ⟨parts', hparts', hblocks⟩ :=
    exists_parts_assemble (legible_template (sound_closePoints htree) hclosed (.inl rfl)) hlegible
  refine ⟨parts', hparts', ?_⟩
  obtain ⟨others, hothers, hscript, hparse⟩ := parse_padded hc
  obtain rfl := hparts.unique hothers
  have hcounted : c.auxiliary.written =
      (countedWritten (countedFrom 0 parts)).map fun p => p.1.padded pad p.2 := by
    have hc' := Except.ok.inj (hc.symm.trans (hparse pad))
    rw [hc']
    exact written_ofCounted (Block.type_padded pad) hscript
  obtain ⟨_, _, hdist, _⟩ := parse_ok_iff.1 hread
  rw [hblocks, rereadAttrs_nil, hdist.placed.2.written_stripped, hwritten, hcounted, List.map_map,
    List.map_map, List.map_map]
  rfl

/-! ## Two transforms -/

/-- The codes of an entry, the first with padding and the second without. Without a base they are the
same. Otherwise they have the same blocks, as long as the start tags of these end at their own `>`
each time they are written. -/
def RepaddedCode (source code plain : Bytes) : Prop :=
  ∃ c parts, Component.parse .none source = .ok c ∧ Factors parts (tokens source) ∧
    (c.template.extends? = none → code = plain) ∧
    (c.template.extends? ≠ none →
      (∀ b ∈ c.auxiliary.written, ClosesItself b.attrs ∧ ClosesItself (rereadAttrs b.attrs)) →
      ∃ padded bare template f f₀, Factors padded (tokens code) ∧ Factors bare (tokens plain) ∧
        blocksOf padded = template :: (countedWritten (countedFrom 0 parts)).map f ∧
        blocksOf bare = template :: (countedWritten (countedFrom 0 parts)).map f₀ ∧
        ∀ p ∈ countedWritten (countedFrom 0 parts), Repadded p.1 p.2 (f₀ p) (f p))

theorem type_ne_template {counted : List (Block × Nat)} {p : Block × Nat}
    (h : p ∈ countedWritten counted) : p.1.type ≠ BlockType.template := by
  simp only [countedWritten, countedCustom, countedOf, List.mem_append, List.mem_filter,
    Bool.and_eq_true, bne_iff_ne, beq_iff_eq] at h
  rcases h with (h | h) | h
  · exact h.1.2.1.1
  · rw [h.2]
    decide
  · rw [h.2]
    decide

theorem repaddedCode_of_last {source code : Bytes} {c : Component} {pad : Padding}
    (hc : Component.parse pad source = .ok c) (ht : c.template.extends? = none) :
    RepaddedCode source code code := by
  obtain ⟨c₀, hc₀⟩ := exists_parse hc .none
  obtain ⟨parts, hparts, _⟩ := parse_ok_iff.1 hc₀
  refine ⟨c₀, parts, hc₀, hparts, fun _ => rfl, fun hne => absurd ?_ hne⟩
  rw [template_eq hc₀ hc, ht]

theorem finalize_resolvedAlike {source text text' : Bytes}
    (h : ResolvedAlike .line .none source source text text') :
    Alike SameKind (RepaddedCode source) (finalize (ε := ε) text) (finalize (ε := ε) text') := by
  cases h with
  | last hc hc' ht =>
    cases finalize source with
    | error e => exact .error rfl
    | ok code => exact .ok (repaddedCode_of_last hc ht)
  | @merged c c₀ forest body hc hc₀ ht hs hr =>
    refine (finalize_alike hs hr (rereadAlike_padded hc hc₀)).imp (fun _ _ => id) ?_
    rintro _ _ ⟨read, read₀, closed, hread, hread₀, hclosed, rfl, rfl⟩
    obtain ⟨parts, hparts, _⟩ := parse_ok_iff.1 hc₀
    refine ⟨c₀, parts, hc₀, hparts, fun hnone => absurd ?_ ht, fun _ hcloses => ?_⟩
    · rw [template_eq hc hc₀, hnone]
    · obtain ⟨padded, hpadded, hblocks⟩ := exists_parts_finished hparts hc hs hr hread hclosed
        (forall_written (p := fun _ attrs => ClosesItself attrs ∧ ClosesItself (rereadAttrs attrs))
          hc₀ hc hcloses)
      obtain ⟨bare, hbare, hblocks₀⟩ :=
        exists_parts_finished hparts hc₀ hs hr hread₀ hclosed hcloses
      exact ⟨padded, bare, _, delivered .line, delivered .none, hpadded, hbare, hblocks, hblocks₀,
        fun p hp => repadded_delivered (type_ne_template hp)⟩

/-- A transform with padding and one without ask for the same paths, leave the files in the same
state, and fail for the same kind of reason or return codes that differ in padding only. -/
theorem transform_padded (files : Files σ ε) (depth : Nat) (path source : Bytes) (state : σ) :
    let padded := transform files ⟨depth, .line⟩ path source state
    let plain := transform files ⟨depth, .none⟩ path source state
    padded.chain = plain.chain ∧ padded.dependencies = plain.dependencies ∧
      padded.state = plain.state ∧ Alike SameKind (RepaddedCode source) padded.code plain.code := by
  intro padded plain
  obtain ⟨hwalk, hout⟩ := resolve_alike (filesAlike_padded .line .none files)
    (sourceAlike_padded .line .none source) depth path state
  refine ⟨?_, ?_, ?_, code_alike hout fun _ _ => finalize_resolvedAlike⟩
  · simp only [padded, plain, transform_chain, hwalk]
  · simp only [padded, plain, transform_dependencies, hwalk]
  · simp only [padded, plain, transform_state, hwalk]

/-- A page with a block in its second line. -/
def linedSource : Bytes := "<template extends=\"frame\"></template>\n<docs>d</docs>"

def linedParts : List Part :=
  [.pair ⟨"<template extends=\"frame\">", .startTag "template" [⟨"extends", "frame"⟩]⟩ []
      ⟨"</template>", .endTag "template"⟩,
    .gap ⟨"\n", .text "\n"⟩,
    .pair ⟨"<docs>", .startTag "docs" []⟩ [⟨"d", .text "d"⟩] ⟨"</docs>", .endTag "docs"⟩]

theorem factors_lined : Factors linedParts (tokens linedSource) where
  tokens := by decide +kernel
  wellFormed := by
    intro part hpart
    fin_cases hpart
    · exact ⟨⟨_, _, rfl⟩, nestedFrom_nil.2 rfl, by decide +kernel⟩
    · exact rfl
    · exact ⟨⟨_, _, rfl⟩, nested_singleton rfl, by decide +kernel⟩

theorem transform_padded_lined :
    ∃ code plain padded bare template docs docs₀,
      (transform pageFiles ⟨1, .line⟩ "/page" linedSource ()).code = .ok code ∧
      (transform pageFiles ⟨1, .none⟩ "/page" linedSource ()).code = .ok plain ∧
      Factors padded (tokens code) ∧ Factors bare (tokens plain) ∧
      blocksOf padded = [template, docs] ∧ blocksOf bare = [template, docs₀] ∧
      Repadded ⟨"docs", [], "d"⟩ 1 docs₀ docs := by
  obtain ⟨hparse, hsome⟩ :
      Component.parse .none linedSource =
        .ok ⟨⟨"template", [⟨"extends", "frame"⟩], []⟩, ⟨none, [], [⟨"docs", [], "d"⟩]⟩⟩ ∧
      (transform pageFiles ⟨1, .line⟩ "/page" linedSource ()).code.toOption.isSome = true := by
    decide +kernel
  have hcounted : countedWritten (countedFrom 0 linedParts) = [(⟨"docs", [], "d"⟩, 1)] := by
    decide +kernel
  obtain ⟨_, _, _, halike⟩ := transform_padded pageFiles 1 "/page" linedSource ()
  obtain ⟨code, hcode⟩ := exists_ok_of_isSome hsome
  obtain ⟨plain, hplain, c, parts, hc, hparts, _, hblocks⟩ := halike.exists_ok hcode
  rw [hparse] at hc
  cases hc
  obtain rfl := hparts.unique factors_lined
  rw [hcounted] at hblocks
  obtain ⟨padded, bare, template, f, f₀, hpadded, hbare, hdocs, hdocs₀, hrepadded⟩ :=
    hblocks (by decide +kernel) (by
      intro b hb
      fin_cases hb
      exact ⟨⟨[], by decide +kernel⟩, ⟨[], by decide +kernel⟩⟩)
  exact ⟨code, plain, padded, bare, template, _, _, hcode, hplain, hpadded, hbare, hdocs, hdocs₀,
    hrepadded _ (List.mem_singleton_self _)⟩

/-- A page with a block whose start tag, once it is written, goes on in the next block. -/
def runOnSource : Bytes :=
  "<template extends=\"frame\"></template>\n<docs a/=\"x></docs><docs k=\"v\"></docs>"

/-- Padding gets into the value of an attribute. -/
theorem transform_padding_in_value :
    ∃ code plain,
      (transform pageFiles ⟨1, .line⟩ "/page" runOnSource ()).code.toOption = some code ∧
      (transform pageFiles ⟨1, .none⟩ "/page" runOnSource ()).code.toOption = some plain ∧
      code = "<template><p><template>x</template></p></template>\n" ++
        "<docs a=\"x&gt;\n&lt;/docs&gt;\n&lt;docs k=\" v\">\n</docs>" ∧
      plain = "<template><p><template>x</template></p></template>\n" ++
        "<docs a=\"x&gt;&lt;/docs&gt;\n&lt;docs k=\" v\"></docs>" ∧
      (Component.parse .none code).toOption.map (fun c => c.auxiliary.custom.map Block.attrs) =
        some [[⟨"a", "x>\n</docs>\n<docs k="⟩, ⟨"v\"", []⟩]] ∧
      (Component.parse .none plain).toOption.map (fun c => c.auxiliary.custom.map Block.attrs) =
        some [[⟨"a", "x></docs>\n<docs k="⟩, ⟨"v\"", []⟩]] :=
  ⟨"<template><p><template>x</template></p></template>\n<docs a=\"x&gt;\n&lt;/docs&gt;\n&lt;docs k=\" v\">\n</docs>",
    "<template><p><template>x</template></p></template>\n<docs a=\"x&gt;&lt;/docs&gt;\n&lt;docs k=\" v\"></docs>",
    by decide +kernel⟩

end Graft.Extend
