import Graft.Proofs.Component.Padded
import Graft.Proofs.Markup.Outline

/-!
# Graft.Proofs.Component.Outlined

Whether a source is a component depends on its tags and on the directives of its template. So it does
not depend on the filler in front of the contents of the blocks that are written.

* `nestedFrom_iff`: nesting, told from the tags.
* `exists_factors`: sources with the same tags have the same parts.
* `exists_parse_of_outline`: and are read alike.
* `spread_assemble`: components that are put together from padded blocks.
-/

namespace Graft

open Markup

/-! ## Nesting -/

def Markup.Outline.name : Outline → Bytes
  | start name => name
  | single name => name
  | stop name => name

/-- How a tag changes the number of open tags of a name. -/
def Markup.Outline.nesting (type : Bytes) : Outline → Int
  | start name => if Fold.alike name type then 1 else 0
  | single _ => 0
  | stop name => if Fold.alike name type then -1 else 0

/-- With `depth` tags of a name open, the tags close them all and never more. -/
def Nests (type : Bytes) : Int → List Outline → Prop
  | depth, [] => depth = 0
  | depth, o :: os => 0 ≤ depth ∧ Nests type (depth + o.nesting type) os

theorem nesting_of_outline? (type : Bytes) (t : Token) :
    nesting type t = ((outline? t).map (Outline.nesting type)).getD 0 := by
  cases hk : t.kind <;> simp [nesting, outline?, tagName, hk, Outline.nesting]

theorem nestedFrom_iff {type : Bytes} {depth : Int} {ts : List Token} :
    NestedFrom depth type ts ↔ Nests type depth (outline ts) := by
  induction ts generalizing depth with
  | nil => exact nestedFrom_nil
  | cons t ts ih =>
    rw [nestedFrom_cons, nesting_of_outline?, outline_cons, ih]
    cases ho : outline? t with
    | some o => rfl
    | none =>
      have hdepth : Nests type depth (outline ts) → 0 ≤ depth := by
        intro h
        have := (ih.2 h).nonneg [] List.nil_prefix
        rwa [level_nil, Int.add_zero] at this
      simpa using hdepth

theorem isStop_iff {type : Bytes} {t : Token} :
    isStop type t = true ↔ ∃ name, outline? t = some (.stop name) ∧ Fold.alike name type = true := by
  cases hk : t.kind <;> simp [isStop, outline?, tagName, hk]

/-! ## Parts -/

theorem isGap_iff {t : Token} : isGap t = true ↔ outline? t = none := by
  cases hk : t.kind <;> simp [isGap, outline?, hk]

theorem selfClosing_iff {t : Token} :
    (∃ lowered attrs, t.kind = .selfClosing lowered attrs) ↔
      ∃ name, outline? t = some (.single name) := by
  cases hk : t.kind <;> simp [outline?, hk]

theorem startTag_iff {t : Token} :
    (∃ lowered attrs, t.kind = .startTag lowered attrs) ↔
      ∃ name, outline? t = some (.start name) := by
  cases hk : t.kind <;> simp [outline?, hk]

theorem tagName_of_outline? {t : Token} {o : Outline} (h : outline? t = some o) :
    tagName t = o.name := by
  cases hk : t.kind <;> simp [outline?, hk] at h <;> rw [← h] <;> rfl

theorem factors_gaps {ts : List Token} (h : ∀ t ∈ ts, outline? t = none) :
    Factors (ts.map .gap) ts where
  tokens := by
    simp [List.flatMap_map, Part.tokens]
  wellFormed := by
    rw [List.forall_mem_map]
    exact fun t ht => isGap_iff.2 (h t ht)

theorem Factors.append {parts parts' : List Part} {ts ts' : List Token} (h : Factors parts ts)
    (h' : Factors parts' ts') : Factors (parts ++ parts') (ts ++ ts') where
  tokens := by rw [List.flatMap_append, h.tokens, h'.tokens]
  wellFormed := by
    intro part hpart
    rcases List.mem_append.1 hpart with hpart | hpart
    · exact h.wellFormed part hpart
    · exact h'.wellFormed part hpart

/-- The types of the blocks among parts. -/
def typesOf (parts : List Part) : List Bytes := (blocksOf parts).map Block.type

theorem typesOf_single (t : Token) (parts : List Part) :
    typesOf (.single t :: parts) = tagName t :: typesOf parts := rfl

theorem typesOf_pair (start stop : Token) (inner : List Token) (parts : List Part) :
    typesOf (.pair start inner stop :: parts) = tagName start :: typesOf parts := rfl

theorem typesOf_gaps (ts : List Token) (parts : List Part) :
    typesOf (ts.map .gap ++ parts) = typesOf parts := by
  induction ts with
  | nil => rfl
  | cons t ts ih => exact ih

theorem exists_factors {parts : List Part} {ts ts' : List Token} (h : Factors parts ts)
    (ho : outline ts = outline ts') :
    ∃ parts', Factors parts' ts' ∧ typesOf parts' = typesOf parts := by
  induction parts generalizing ts ts' with
  | nil =>
    rw [← h.tokens] at ho
    exact ⟨ts'.map .gap, factors_gaps (List.filterMap_eq_nil_iff.1 ho.symm),
      List.append_nil (ts'.map Part.gap) ▸ typesOf_gaps ts' []⟩
  | cons part parts ih =>
    obtain ⟨hpart, hparts⟩ := List.forall_mem_cons.1 h.wellFormed
    have hrest : Factors parts (parts.flatMap Part.tokens) := ⟨rfl, hparts⟩
    rw [← h.tokens, List.flatMap_cons] at ho
    cases part with
    | gap t =>
      rw [Part.tokens, List.singleton_append, outline_cons, isGap_iff.1 hpart] at ho
      exact ih hrest ho
    | single t =>
      obtain ⟨name, ht⟩ := selfClosing_iff.1 hpart
      rw [Part.tokens, List.singleton_append, outline_cons, ht] at ho
      obtain ⟨front, t', rest', rfl, hfront, ht', ho'⟩ := List.filterMap_eq_cons_iff.1 ho.symm
      obtain ⟨parts', hparts', htypes⟩ := ih hrest ho'.symm
      have hw : (Part.single t').WellFormed := selfClosing_iff.2 ⟨name, ht'⟩
      refine ⟨front.map .gap ++ .single t' :: parts',
        (factors_gaps hfront).append (.cons hw hparts'), ?_⟩
      rw [typesOf_gaps, typesOf_single, typesOf_single, htypes, tagName_of_outline? ht,
        tagName_of_outline? ht']
    | pair start inner stop =>
      obtain ⟨hstart, hnested, hstop⟩ := hpart
      obtain ⟨name, hs⟩ := startTag_iff.1 hstart
      obtain ⟨last, hl, halike⟩ := isStop_iff.1 hstop
      rw [Part.tokens, List.cons_append, outline_cons, hs, Option.toList_some, List.singleton_append,
        List.append_assoc, outline_append, List.singleton_append, outline_cons, hl,
        Option.toList_some, List.singleton_append] at ho
      obtain ⟨front, start', behind, rfl, hfront, hs', hbehind⟩ := List.filterMap_eq_cons_iff.1 ho.symm
      obtain ⟨inner', last', rfl, hinner, hlast⟩ := List.filterMap_eq_append_iff.1 hbehind
      obtain ⟨gaps, stop', rest', rfl, hgaps, hl', ho'⟩ := List.filterMap_eq_cons_iff.1 hlast
      obtain ⟨parts', hparts', htypes⟩ := ih hrest ho'.symm
      have hname : tagName start' = tagName start := by
        rw [tagName_of_outline? hs, tagName_of_outline? hs']
      have hw : (Part.pair start' (inner' ++ gaps) stop').WellFormed := by
        have hsame : outline (inner' ++ gaps) = outline inner := by
          rw [outline, List.filterMap_append, hinner, List.filterMap_eq_nil_iff.2 hgaps,
            List.append_nil]
        refine ⟨startTag_iff.2 ⟨name, hs'⟩, ?_, isStop_iff.2 ⟨last, hl', hname ▸ halike⟩⟩
        rw [hname]
        exact nestedFrom_iff.2 (hsame ▸ nestedFrom_iff.1 hnested)
      refine ⟨front.map .gap ++ .pair start' (inner' ++ gaps) stop' :: parts', ?_, ?_⟩
      · have hfactors := (factors_gaps hfront).append (.cons hw hparts')
        simpa [Part.tokens] using hfactors
      · rw [typesOf_gaps, typesOf_pair, typesOf_pair, htypes, hname]

/-! ## Components -/

theorem length_ofType (type : Bytes) (parts : List Part) :
    (ofType type (blocksOf parts)).length = (typesOf parts).count type := by
  rw [ofType, typesOf, List.count, List.countP_map, List.countP_eq_length_filter]
  rfl

/-- Blocks with one template and at most one script make a component. -/
theorem exists_distributed {blocks : List Block} {template : Block}
    (ht : ofType BlockType.template blocks = [template])
    (hs : (ofType BlockType.script blocks).length ≤ 1) :
    ∃ c, Distributed blocks c ∧ c.template = template := by
  obtain ⟨script, hscript⟩ : ∃ script : Option Block,
      ofType BlockType.script blocks = script.toList := by
    match ofType BlockType.script blocks, hs with
    | [], _ => exact ⟨none, rfl⟩
    | [b], _ => exact ⟨some b, rfl⟩
  exact ⟨⟨template, script, ofType BlockType.style blocks, customOf blocks⟩,
    ⟨ht, hscript, rfl, rfl⟩, rfl⟩

/-- A source with the tags of a component is one, if it begins with a template that makes sense. -/
theorem exists_parse_of_outline {source source' : Bytes} {c : Component} {b : Block}
    (h : Component.parse .none source = .ok c)
    (ho : outline (Markup.tokens source) = outline (Markup.tokens source'))
    (hbegins : BeginsWith source' b) (hb : b.type = BlockType.template) (hv : ValidDirectives b) :
    ∃ c', Component.parse .none source' = .ok c' := by
  obtain ⟨parts, hparts, hdist, _⟩ := parse_ok_iff.1 h
  obtain ⟨parts', hparts', htypes⟩ := exists_factors hparts ho
  rw [blocksFrom_none] at hdist
  have hcount (type : Bytes) : (ofType type (blocksOf parts')).length =
      (ofType type (blocksOf parts)).length := by
    rw [length_ofType, length_ofType, htypes]
  obtain ⟨bs, hblocks⟩ := hbegins.exists_blocks hparts'
  have hmem : b ∈ ofType BlockType.template (blocksOf parts') := by
    rw [hblocks, ofType, List.mem_filter]
    exact ⟨List.mem_cons_self .., by rw [hb, beq_self_eq_true]⟩
  obtain ⟨template, htemplate⟩ := List.length_eq_one_iff.1
    ((hcount BlockType.template).trans (by rw [hdist.template]; rfl))
  rw [htemplate, List.mem_singleton] at hmem
  obtain ⟨c', hdist', ht'⟩ := exists_distributed (hmem ▸ htemplate) (by
    rw [hcount, hdist.script]
    cases c.auxiliary.script <;> simp)
  refine ⟨c', parse_ok_iff.2 ⟨parts', hparts', ?_, ht' ▸ hv⟩⟩
  rw [blocksFrom_none]
  exact hdist'

/-! ## Padded blocks -/

theorem fills_padding (pad : Padding) (type : Bytes) (attrs : List Attr) (feeds : Nat) :
    Fills (padding pad type attrs feeds) := by
  have hfiller : Fills (filler type attrs) := by
    unfold filler
    split
    · exact forall_mem_of_all (by decide)
    · exact forall_mem_of_all (by decide)
  unfold padding
  split
  · exact fills_nil
  split
  · exact fills_nil
  · intro c hc
    obtain ⟨line, hline, hc⟩ := List.mem_flatten.1 hc
    rw [(List.mem_replicate.1 hline).2] at hc
    exact hfiller c hc

theorem Block.padded_none (b : Block) (feeds : Nat) : b.padded .none feeds = b := rfl

theorem spread_source (pad : Padding) (b : Block) (feeds : Nat) :
    Spread b.source (b.padded pad feeds).source := by
  have hsource (b : Block) : b.source = (Byte.lt :: b.type ++ writeAttrs b.attrs) ++
      Byte.gt :: (b.content ++ endText b.type) := by
    have happ := source_append b []
    rw [List.append_nil, List.append_nil, List.append_assoc _ [Byte.gt]] at happ
    exact happ
  rw [hsource, hsource, Block.padded]
  dsimp only
  rw [List.append_assoc (padding _ _ _ _)]
  exact (Spread.refl _).append (.fill (fills_padding pad b.type b.attrs feeds) (.refl _))

theorem spread_joinWith {α : Type} {f f' : α → Bytes} (h : ∀ a, Spread (f a) (f' a)) (as : List α) :
    Spread (Bytes.joinWith "\n" (as.map f)) (Bytes.joinWith "\n" (as.map f')) := by
  induction as with
  | nil => exact .nil
  | cons a as ih =>
    cases as with
    | nil =>
      simp only [Bytes.joinWith, List.map_cons, List.map_nil, List.intersperse_singleton,
        List.flatten_cons, List.flatten_nil, List.append_nil]
      exact h a
    | cons b as =>
      have hjoin (g : α → Bytes) : Bytes.joinWith "\n" ((a :: b :: as).map g) =
          g a ++ (("\n" : Bytes) ++ Bytes.joinWith "\n" ((b :: as).map g)) := by
        simp [Bytes.joinWith]
      rw [hjoin, hjoin]
      exact (h a).append ((Spread.refl _).append ih)

theorem spread_assemble (attrs : List Attr) (body : Bytes) {counted : List (Block × Nat)}
    (hs : (countedOf BlockType.script counted).length ≤ 1) (pad : Padding) :
    Spread (assemble attrs body (.ofCounted (fun p => p.1.padded .none p.2) counted))
      (assemble attrs body (.ofCounted (fun p => p.1.padded pad p.2) counted)) := by
  rw [assemble_eq, assemble_eq, Auxiliary.source, Auxiliary.source,
    written_ofCounted (Block.type_padded _) hs, written_ofCounted (Block.type_padded _) hs,
    List.map_map, List.map_map]
  refine (Spread.refl _).append ((Spread.refl _).append (spread_joinWith (fun p => ?_) _))
  rw [Function.comp_apply, Function.comp_apply, Block.padded_none]
  exact spread_source pad p.1 p.2

end Graft
