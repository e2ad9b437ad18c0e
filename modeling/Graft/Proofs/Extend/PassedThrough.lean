import Graft.Proofs.Extend.Closed

/-!
# Graft.Proofs.Extend.PassedThrough

The blocks beside the template of an entry pass through a transform as they are, except that a
script loses the filler lines it begins with. No block of an ancestor is among them.

* `Unfilled`: a block without the filler lines of its content.
* `Auxiliary.reread_eq`: blocks whose attributes are read back as they are written.
* `transform_passes_through`: the blocks of the code of an entry.
-/

namespace Graft

open Markup

/-- The second block is the first one without the filler lines its content begins with. -/
def Unfilled (b b' : Block) : Prop :=
  ∃ n, b = { b' with content := Bytes.repeated n fillerLine ++ b'.content } ∧
    ¬ fillerLine <+: b'.content

theorem unfilled_stripPadding (b : Block) :
    Unfilled b { b with content := Extend.stripPadding b.content } := by
  obtain ⟨⟨n, hn⟩, hstop⟩ := Extend.stripPadding_spec b.content
  exact ⟨n, by rw [← hn], hstop⟩

/-! ## Attributes that come back -/

theorem rereadAttrs_eq_self {attrs : List Attr} (hk : ∀ a ∈ attrs, IsKey a.key)
    (hd : DistinctKeys attrs) (he : ∀ a ∈ attrs, a.key.head? ≠ some Byte.eq ∧ Byte.cr ∉ a.val) :
    rereadAttrs attrs = attrs := by
  rw [rereadAttrs_eq hk hd fun a ha => (he a ha).1, normalizedAttrs]
  refine (List.map_congr_left fun a ha => ?_).trans (List.map_id _)
  rw [normalizeLines_of_not_mem (he a ha).2]
  rfl

/-- The blocks beside the template that are written. -/
def Auxiliary.shipped (a : Auxiliary) : Auxiliary :=
  { a with custom := a.custom.filter fun b => b.type != BlockType.extension }

theorem Auxiliary.reread_eq {a : Auxiliary} (h : ∀ b ∈ a.written, rereadAttrs b.attrs = b.attrs) :
    a.reread = a.shipped := by
  have hsame (b : Block) (hb : b ∈ a.written) : b.reread = b := by rw [Block.reread, h b hb]
  simp only [Auxiliary.reread, Auxiliary.shipped]
  congr 1
  · cases hs : a.script with
    | none => rfl
    | some b => rw [Option.map_some, hsame b (by simp [Auxiliary.written, hs])]
  · exact (List.map_congr_left fun b hb => hsame b (by simp [Auxiliary.written, hb])).trans
      (List.map_id _)
  · refine (List.map_congr_left fun b hb => hsame b ?_).trans (List.map_id _)
    rw [Auxiliary.written]
    exact List.mem_append_left _ (List.mem_append_left _ hb)

theorem written_shipped (a : Auxiliary) : a.shipped.written = a.written := by
  simp [Auxiliary.written, Auxiliary.shipped]

theorem shipped_stripped_shipped (a : Auxiliary) : a.shipped.stripped.shipped = a.stripped.shipped := by
  simp [Auxiliary.shipped, Auxiliary.stripped]

namespace Extend

variable {σ ε : Type}

/-- A script without its filler lines, and all styles and custom blocks as they were, except for those
of type `extension`. -/
structure PassesThrough (a a' : Auxiliary) : Prop where
  script : Option.Rel Unfilled a.script a'.script
  styles : a'.styles = a.styles
  custom : a'.custom = a.custom.filter fun b => b.type != BlockType.extension

theorem passesThrough_stripped (a : Auxiliary) : PassesThrough a a.stripped.shipped where
  script := by
    cases hs : a.script with
    | none => simp only [Auxiliary.shipped, Auxiliary.stripped, hs]; exact .none
    | some b =>
      simp only [Auxiliary.shipped, Auxiliary.stripped, hs, Option.map_some]
      exact .some (unfilled_stripPadding b)
  styles := rfl
  custom := rfl

/-- A finished component has the blocks that were read, without the filler of the script. -/
theorem auxiliary_finished {text closed : Bytes} {read : Component}
    (hp : Component.parse .none text = .ok read) (ht : Legible ⟨BlockType.template, [], closed⟩)
    (hplain : ∀ b ∈ read.auxiliary.written, b.type ≠ plaintextName)
    (hcloses : ∀ b ∈ read.auxiliary.written, ClosesItself b.attrs)
    (hattrs : ∀ b ∈ read.auxiliary.written, rereadAttrs b.attrs = b.attrs) :
    ∃ c, Component.parse .none (assemble [] closed read.auxiliary.stripped) = .ok c ∧
      c.auxiliary = read.auxiliary.stripped.shipped := by
  obtain ⟨_, _, hdist, _⟩ := parse_ok_iff.1 hp
  refine ⟨_, parse_finished hp ht hplain hcloses, Auxiliary.reread_eq ?_⟩
  rw [hdist.placed.2.written_stripped, List.forall_mem_map]
  intro b hb
  rw [b.attrs_stripped, hattrs b hb]

/-- The code of an entry that is not padded. Without directives it is read as the entry is. Otherwise
it is read with the blocks of the entry, if the keys of these do not begin with `=`, their values have
no carriage return and an entry without base has no tag named `plaintext`. -/
theorem transform_passes_through {files : Files σ ε} {depth : Nat} {path source code : Bytes}
    {state : σ} {c : Component} (hc : Component.parse .none source = .ok c)
    (h : (transform files ⟨depth, .none⟩ path source state).code = .ok code) :
    (c.template.extends? = none ∧ c.template.isExtendable = false →
      Component.parse .none code = .ok c) ∧
    (c.template.extends? ≠ none ∨ c.template.isExtendable = true →
      (c.template.extends? = none → ∀ t ∈ tokens source, tagName t ≠ plaintextName) →
      (∀ b ∈ c.auxiliary.written, ∀ a ∈ b.attrs, a.key.head? ≠ some Byte.eq ∧ Byte.cr ∉ a.val) →
      ∃ c', Component.parse .none code = .ok c' ∧ PassesThrough c.auxiliary c'.auxiliary) := by
  obtain ⟨entry, hentry, hfinishes⟩ := finishes_of_transform h
  obtain rfl : entry = c := Except.ok.inj (hentry.symm.trans hc)
  refine ⟨fun hd => ?_, fun hd hplain hkeys => ?_⟩
  · cases hfinishes with
    | plain => exact hc
    | marked _ hm => simp [hm] at hd
    | merged hb => simp [hb] at hd
  have htag (b : Block) (hb : b ∈ entry.auxiliary.written) := soundTag_of_parse hc (mem_blocks hb)
  have hcloses (b : Block) (hb : b ∈ entry.auxiliary.written) : ClosesItself b.attrs :=
    closesItself_of_keys (htag b hb).isKey fun a ha => (hkeys b hb a ha).1
  have hattrs (b : Block) (hb : b ∈ entry.auxiliary.written) : rereadAttrs b.attrs = b.attrs :=
    rereadAttrs_eq_self (htag b hb).isKey (htag b hb).distinct (hkeys b hb)
  cases hfinishes with
  | plain hb hm => simp [hb, hm] at hd
  | @marked read closed hb hm hp hr =>
    obtain rfl : read = entry := Except.ok.inj (hp.symm.trans hc)
    have hsound := sound_template hp (hplain hb)
    obtain ⟨c', hc', haux⟩ := auxiliary_finished hp
      (legible_template (sound_closePoints hsound) hr (.inl rfl))
      (written_ne_plaintext hp (hplain hb)) hcloses hattrs
    exact ⟨c', hc', haux ▸ passesThrough_stripped read.auxiliary⟩
  | @merged target body closed forest read hb hs hr hp ht hclosed =>
    obtain ⟨hne, haux⟩ := read_of_parse_merged hc hs hr hcloses hp
    have hread : read.auxiliary = entry.auxiliary.shipped := haux.trans (Auxiliary.reread_eq hattrs)
    have hwritten : read.auxiliary.written = entry.auxiliary.written := by
      rw [hread, written_shipped]
    have hsound := sound_parse_template hp (by rw [ht]) hs hr
    obtain ⟨c', hc', haux'⟩ := auxiliary_finished hp
      (legible_template (sound_closePoints hsound) hclosed (.inl rfl)) (hwritten ▸ hne)
      (hwritten ▸ hcloses) (hwritten ▸ hattrs)
    refine ⟨c', hc', ?_⟩
    rw [haux', hread, shipped_stripped_shipped]
    exact passesThrough_stripped entry.auxiliary

/-- A page with a script that begins with a filler line. -/
def notedSource : Bytes :=
  "<template extends=\"frame\"></template><script>//\nrun()</script><docs k=\"v\">d</docs>" ++
    "<extension></extension>"

theorem transform_passes_through_noted :
    ∃ code c' b, (transform pageFiles ⟨1, .none⟩ "/page" notedSource ()).code = .ok code ∧
      Component.parse .none code = .ok c' ∧
      c'.auxiliary = ⟨some b, [], [⟨"docs", [⟨"k", "v"⟩], "d"⟩]⟩ ∧
      Unfilled ⟨"script", [], "//\nrun()"⟩ b := by
  obtain ⟨hparse, hsome⟩ :
      Component.parse .none notedSource =
          .ok ⟨⟨"template", [⟨"extends", "frame"⟩], []⟩,
            ⟨some ⟨"script", [], "//\nrun()"⟩, [],
              [⟨"docs", [⟨"k", "v"⟩], "d"⟩, ⟨"extension", [], []⟩]⟩⟩ ∧
        (transform pageFiles ⟨1, .none⟩ "/page" notedSource ()).code.toOption.isSome = true := by
    decide +kernel
  obtain ⟨code, hcode⟩ := exists_ok_of_isSome hsome
  obtain ⟨⟨template, script, styles, custom⟩, hc', hscript, rfl, rfl⟩ :=
    (transform_passes_through hparse hcode).2 (.inl (by decide +kernel)) (fun h => by cases h)
      (by decide +kernel)
  cases hscript with
  | some hb => exact ⟨code, _, _, hcode, hc', rfl, hb⟩

/-- A filler line of the script of an extendable entry is gone. -/
theorem transform_unfills :
    (Component.parse .none "<template extendable></template>\n<script>//\nrun()</script>").toOption.map
        (·.auxiliary.script) = some (some ⟨"script", [], "//\nrun()"⟩) ∧
      (transform bareFiles ⟨1, .none⟩ "/page"
        "<template extendable></template>\n<script>//\nrun()</script>" ()).code.toOption =
          some "<template></template>\n<script>run()</script>" ∧
      (Component.parse .none "<template></template>\n<script>run()</script>").toOption.map
        (·.auxiliary.script) = some (some ⟨"script", [], "run()"⟩) := by
  decide +kernel

end Extend

end Graft
