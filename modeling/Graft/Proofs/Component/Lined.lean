import Graft.Proofs.Component.Padded

/-!
# Graft.Proofs.Component.Lined

Reading a source with line padding and without it, side by side. Both runs take the same steps, and
where the content of a block begins, the one with padding has counted the lines of the file.

* `Reading.bare`, `takeAll_bare`: two runs agree but for contents beside the template.
* `Located`, `locatedFrom`: blocks with the offsets at which their contents begin.
* `lineOf`: the line on which a byte stands.
* `parse_line_exact`: the two components, block by block.
-/

namespace Graft

open Markup (Attr Token isStop nesting slices slices_append slices_cons tagName tokens)

/-! ## Two runs -/

/-- A block whose content padding leaves alone, or else without its content. -/
def Block.bare (b : Block) : Block :=
  if b.type = BlockType.template then b else { b with content := [] }

def Auxiliary.bare (a : Auxiliary) : Auxiliary :=
  ⟨a.script.map Block.bare, a.styles.map Block.bare, a.custom.map Block.bare⟩

def Component.bare (c : Component) : Component := { c with auxiliary := c.auxiliary.bare }

def Reading.bare (r : Reading) : Reading := { r with auxiliary := r.auxiliary.bare }

theorem Block.type_bare (b : Block) : b.bare.type = b.type := by
  unfold Block.bare
  split <;> rfl

theorem Block.bare_of_nil {b : Block} (h : b.content = []) : b.bare = b := by
  unfold Block.bare
  split
  · rfl
  · rw [← h]

theorem close_bare (b : OpenBlock) (pad pad' : Padding) : (b.close pad).bare = (b.close pad').bare := by
  unfold Block.bare OpenBlock.close
  dsimp only
  split
  · rename_i ht
    have hpad (pad : Padding) : padding pad b.type b.attrs b.feeds = [] := by
      rw [ht]
      cases pad <;> rfl
    rw [hpad, hpad]
  · rfl

theorem add_bare (r : Reading) (b : Block) : (r.add b).map Reading.bare = r.bare.add b.bare := by
  unfold Reading.add
  rw [Block.type_bare]
  split
  · rename_i ht
    have hb : b.bare = b := by rw [Block.bare, if_pos ht]
    rw [hb]
    cases h : r.template <;> simp [h, Except.map, Reading.bare]
  split
  · rename_i hs
    cases h : r.auxiliary.script <;> simp [h, Except.map, Reading.bare, Auxiliary.bare]
  split
  · simp [Except.map, Reading.bare, Auxiliary.bare]
  · simp [Except.map, Reading.bare, Auxiliary.bare]

theorem takeOutside_bare (r : Reading) (t : Token) :
    (r.takeOutside t).map Reading.bare = r.bare.takeOutside t := by
  unfold Reading.takeOutside
  split
  · rfl
  · rw [add_bare, Block.bare_of_nil rfl]
  · rfl
  · rfl

/-- Two results that look alike are the same failure, or look alike where they succeed. -/
theorem map_eq_map_cases {ε α β : Type} {f : α → β} {x x' : Except ε α} (h : x.map f = x'.map f) :
    (∃ e, x = .error e ∧ x' = .error e) ∨ ∃ a a', x = .ok a ∧ x' = .ok a' ∧ f a = f a' := by
  cases x with
  | error e =>
    cases x' with
    | error e' =>
      cases h
      exact .inl ⟨e, rfl, rfl⟩
    | ok a' => cases h
  | ok a =>
    cases x' with
    | error e' => cases h
    | ok a' => exact .inr ⟨a, a', rfl, rfl, Except.ok.inj h⟩

section

variable (pad pad' : Padding) {r r' : Reading}

theorem takeInside_bare (h : r.bare = r'.bare) (b : OpenBlock) (t : Token) :
    (r.takeInside pad b t).map Reading.bare = (r'.takeInside pad' b t).map Reading.bare := by
  have hcurrent (current : Option OpenBlock) :
      ({ r with current := current } : Reading).bare =
        ({ r' with current := current } : Reading).bare :=
    congrArg (fun s : Reading => { s with current := current }) h
  rw [takeInside_eq, takeInside_eq]
  split
  · rw [add_bare, add_bare, hcurrent, close_bare b pad pad']
  · exact congrArg Except.ok (hcurrent _)

theorem counted_bare {n : Nat} {x x' : Except SourceError Reading}
    (h : x.map Reading.bare = x'.map Reading.bare) :
    (x.map fun s : Reading => { s with feeds := s.feeds + n }).map Reading.bare =
      (x'.map fun s : Reading => { s with feeds := s.feeds + n }).map Reading.bare := by
  rcases map_eq_map_cases h with ⟨e, rfl, rfl⟩ | ⟨s, s', rfl, rfl, hs⟩
  · rfl
  · exact congrArg (fun u : Reading => Except.ok { u with feeds := u.feeds + n }) hs

theorem take_bare (h : r.bare = r'.bare) (t : Token) :
    (r.take pad t).map Reading.bare = (r'.take pad' t).map Reading.bare := by
  have htake (pad : Padding) (r : Reading) : r.take pad t =
      (r.current.elim (r.takeOutside t) (r.takeInside pad · t)).map
        fun s : Reading => { s with feeds := s.feeds + t.raw.lineFeeds } := by
    rw [Reading.take]
    cases r.current with
    | none => cases r.takeOutside t <;> rfl
    | some b =>
      dsimp only [Option.elim_some]
      cases r.takeInside pad b t <;> rfl
  have hcurrent : r.bare.current = r'.bare.current := congrArg Reading.current h
  change r.current = r'.current at hcurrent
  rw [htake, htake, hcurrent]
  cases r'.current with
  | none =>
    have houtside : (r.takeOutside t).map Reading.bare = (r'.takeOutside t).map Reading.bare := by
      rw [takeOutside_bare, takeOutside_bare, h]
    exact counted_bare houtside
  | some b => exact counted_bare (takeInside_bare pad pad' h b t)

theorem takeAll_bare (h : r.bare = r'.bare) (ts : List Token) :
    (r.takeAll pad ts).map Reading.bare = (r'.takeAll pad' ts).map Reading.bare := by
  induction ts generalizing r r' with
  | nil => exact congrArg Except.ok h
  | cons t ts ih =>
    rw [Reading.takeAll, Reading.takeAll]
    rcases map_eq_map_cases (take_bare pad pad' h t) with ⟨e, hr, hr'⟩ | ⟨s, s', hr, hr', hs⟩
    · rw [hr, hr']
    · rw [hr, hr']
      exact ih hs

theorem finish_bare (r : Reading) : r.finish.map Component.bare = r.bare.finish := by
  unfold Reading.finish
  cases hc : r.current with
  | some b => simp [Reading.bare, hc, Except.map]
  | none =>
    cases ht : r.template with
    | none => simp [Reading.bare, hc, ht, Except.map]
    | some template =>
      cases hd : Reading.directiveError? template <;>
        simp [Reading.bare, hc, ht, hd, Except.map, Component.bare]

/-- The padding changes nothing but contents beside the template. -/
theorem parse_bare (source : Bytes) :
    (Component.parse pad source).map Component.bare =
      (Component.parse pad' source).map Component.bare := by
  unfold Component.parse
  have hrun := takeAll_bare pad pad' (rfl : Reading.empty.bare = _) (tokens source)
  rcases map_eq_map_cases hrun with ⟨e, hr, hr'⟩ | ⟨s, s', hr, hr', hs⟩
  · rw [hr, hr']
  · rw [hr, hr']
    dsimp only
    rw [finish_bare, finish_bare, hs]

end

/-! ## Where contents begin -/

/-- A block and the offset at which its content begins, if it is not a self-closing tag. -/
structure Located where
  block : Block
  offset : Option Nat

def Part.located? (offset : Nat) : Part → Option Located
  | gap _ => none
  | single t => some ⟨⟨tagName t, tagAttrs t, []⟩, none⟩
  | pair start inner _ =>
    some ⟨⟨tagName start, tagAttrs start, slices inner⟩, some (offset + start.raw.length)⟩

/-- The blocks of parts, the first of which begins at an offset. -/
def locatedFrom : Nat → List Part → List Located
  | _, [] => []
  | offset, part :: parts =>
    (part.located? offset).toList ++ locatedFrom (offset + (slices part.tokens).length) parts

/-- What stands in front of the content with line padding: for each line feed of the source before it
one line, which is a comment in a script without `lang`. -/
def Located.pad (source : Bytes) (l : Located) : Bytes :=
  match l.offset with
  | none => []
  | some o =>
    if l.block.type = "template" then []
    else if l.block.type = "script" ∧ ∀ a ∈ l.block.attrs, a.key ≠ "lang" then
      Bytes.repeated (Bytes.lineFeeds (source.take o)) "//\n"
    else Bytes.repeated (Bytes.lineFeeds (source.take o)) "\n"

theorem Located.pad_eq (source : Bytes) (b : Block) (o : Nat) :
    Located.pad source ⟨b, some o⟩ =
      padding .line b.type b.attrs (Bytes.lineFeeds (source.take o)) := by
  have hlang : (∀ a ∈ b.attrs, a.key ≠ "lang") ↔ ¬ Attrs.has "lang" b.attrs := by
    rw [Bool.not_eq_true, Attrs.not_has]
  simp only [Located.pad, padding, filler, hlang]
  rw [apply_ite (Bytes.repeated _)]
  rfl

def Located.lined (source : Bytes) (l : Located) : Block :=
  { l.block with content := l.pad source ++ l.block.content }

/-- The line on which the byte at an offset stands. -/
def lineOf (s : Bytes) (offset : Nat) : Nat := Bytes.lineFeeds (s.take offset) + 1

/-- The content of a block stands in the source, and padded each of its bytes is on the same line. -/
structure Located.Exact (source : Bytes) (l : Located) : Prop where
  selfClosing : l.offset = none → (l.lined source).content = []
  stands : ∀ o, l.offset = some o → l.block.content <+: source.drop o ∧ o ≤ source.length
  lines : ∀ o, l.offset = some o → l.block.type ≠ BlockType.template →
    ∀ i < l.block.content.length,
      lineOf (l.lined source).content ((l.pad source).length + i) = lineOf source (o + i)

theorem lineFeeds_repeated_filler (n : Nat) (type : Bytes) (attrs : List Attr) :
    (Bytes.repeated n (filler type attrs)).lineFeeds = n := by
  have hone : (filler type attrs).lineFeeds = 1 := by
    unfold filler
    split <;> decide
  induction n with
  | zero => rfl
  | succ n ih =>
    rw [Bytes.repeated, List.replicate_succ, List.flatten_cons, ← Bytes.repeated, lineFeeds_append, ih,
      hone, Nat.add_comm]

section

variable {source front behind : Bytes} {parts : List Part}

theorem exact_of_eq {b : Block} (h : source = front ++ b.content ++ behind) :
    Located.Exact source ⟨b, some front.length⟩ where
  selfClosing := nofun
  stands := by
    intro o ho
    cases ho
    rw [h, List.append_assoc, List.drop_left]
    exact ⟨List.prefix_append .., by simp⟩
  lines := by
    intro o ho htype i hi
    cases ho
    have htake : source.take (front.length + i) = front ++ b.content.take i := by
      rw [h, List.append_assoc, List.take_length_add_append,
        List.take_append_of_le_length (Nat.le_of_lt hi)]
    have hpad : Located.pad source ⟨b, some front.length⟩ =
        Bytes.repeated front.lineFeeds (filler b.type b.attrs) := by
      rw [Located.pad_eq, padding, if_neg htype, h, List.append_assoc, List.take_left]
    rw [lineOf, lineOf, htake, Located.lined, List.take_length_add_append, lineFeeds_append,
      lineFeeds_append, hpad, lineFeeds_repeated_filler]

theorem located?_exact {part : Part} (h : source = front ++ slices part.tokens ++ behind) :
    ∀ l ∈ part.located? front.length, l.Exact source := by
  intro l hl
  cases part with
  | gap t => cases hl
  | single t =>
    cases hl
    exact ⟨fun _ => rfl, nofun, nofun⟩
  | pair start inner stop =>
    cases hl
    have hsource : source = (front ++ start.raw) ++ slices inner ++ (slices [stop] ++ behind) := by
      rw [h, Part.tokens, slices_cons, slices_append]
      simp only [List.append_assoc]
    rw [← List.length_append]
    exact exact_of_eq hsource

/-- The source taken apart behind its first part. -/
theorem eq_behind_part {part : Part}
    (h : source = front ++ slices ((part :: parts).flatMap Part.tokens) ++ behind) :
    source = front ++ slices part.tokens ++ (slices (parts.flatMap Part.tokens) ++ behind) := by
  rw [h, List.flatMap_cons, slices_append]
  simp only [List.append_assoc]

theorem locatedFrom_exact (h : source = front ++ slices (parts.flatMap Part.tokens) ++ behind) :
    ∀ l ∈ locatedFrom front.length parts, l.Exact source := by
  induction parts generalizing front with
  | nil => simp [locatedFrom]
  | cons part parts ih =>
    intro l hl
    have hpart := eq_behind_part h
    rcases List.mem_append.1 hl with hl | hl
    · exact located?_exact hpart l (by simpa using hl)
    · rw [← List.length_append] at hl
      exact ih (hpart.trans (List.append_assoc ..).symm) l hl

theorem blocksFrom_none_eq (offset feeds : Nat) (parts : List Part) :
    blocksFrom .none feeds parts = (locatedFrom offset parts).map Located.block := by
  induction parts generalizing offset feeds with
  | nil => rfl
  | cons part parts ih =>
    rw [blocksFrom, locatedFrom, List.map_append, ih (offset + (slices part.tokens).length)]
    cases part <;> rfl

theorem padded?_line {part : Part} (h : source = front ++ slices part.tokens ++ behind) :
    part.padded? .line front.lineFeeds = (part.located? front.length).map (Located.lined source) := by
  cases part with
  | gap t => rfl
  | single t => rfl
  | pair start inner stop =>
    have htake : source.take (front.length + start.raw.length) = front ++ start.raw := by
      rw [h, Part.tokens, slices_cons, ← List.length_append, ← List.append_assoc, List.append_assoc,
        List.take_left]
    simp only [Part.padded?, Part.located?, Option.map_some, Located.lined, Located.pad_eq, htake,
      lineFeeds_append]

theorem blocksFrom_line_eq (h : source = front ++ slices (parts.flatMap Part.tokens) ++ behind) :
    blocksFrom .line front.lineFeeds parts =
      (locatedFrom front.length parts).map (Located.lined source) := by
  induction parts generalizing front with
  | nil => rfl
  | cons part parts ih =>
    have hpart := eq_behind_part h
    have hrest := ih (hpart.trans (List.append_assoc ..).symm)
    rw [lineFeeds_append, List.length_append] at hrest
    rw [blocksFrom, locatedFrom, List.map_append, hrest, padded?_line hpart]
    cases part.located? front.length <;> rfl

end

/-- With line padding a source fails to be read exactly as it does without. Where it is read, the two
components have the same template and the same blocks, each with its type and attributes; and beside
the template every content between two tags has one filler in front of it for each line feed of the
source before it, so all its bytes are on the lines they have in the source. -/
theorem parse_line_exact (source : Bytes) :
    (∀ e, Component.parse .line source = .error e ↔ Component.parse .none source = .error e) ∧
    ∀ c c', Component.parse .none source = .ok c → Component.parse .line source = .ok c' →
      c'.template = c.template ∧ c'.auxiliary.bare = c.auxiliary.bare ∧
      ∃ parts, Factors parts (tokens source) ∧
        Distributed ((locatedFrom 0 parts).map Located.block) c ∧
        Distributed ((locatedFrom 0 parts).map (Located.lined source)) c' ∧
        ∀ l ∈ locatedFrom 0 parts, l.Exact source := by
  have hbare := parse_bare .none .line source
  constructor
  · intro e
    rcases map_eq_map_cases hbare with ⟨e', h, h'⟩ | ⟨c, c', h, h', _⟩
    · rw [h, h']
    · rw [h, h']
      exact ⟨nofun, nofun⟩
  · intro c c' h h'
    have hsame : c.bare = c'.bare := by
      rw [h, h'] at hbare
      exact Except.ok.inj hbare
    obtain ⟨parts, hparts, hdist, _⟩ := parse_ok_iff.1 h
    obtain ⟨parts', hparts', hdist', _⟩ := parse_ok_iff.1 h'
    obtain rfl := hparts.unique hparts'
    have hsource : source = [] ++ slices (parts.flatMap Part.tokens) ++ Markup.tail source := by
      rw [hparts.tokens]
      exact (Markup.slices_tokens source).symm
    refine ⟨?_, ?_, parts, hparts, ?_, ?_, locatedFrom_exact hsource⟩
    · exact (congrArg Component.template hsame).symm
    · exact (congrArg Component.auxiliary hsame).symm
    · rwa [blocksFrom_none_eq 0] at hdist
    · have hline : blocksFrom .line 0 parts = _ := blocksFrom_line_eq hsource
      rwa [hline] at hdist'

end Graft
