import Graft.Component.Read
import Graft.Proofs.Markup.Nesting
import Graft.Proofs.Markup.Run

/-!
# Graft.Proofs.Component.Grammar

The block grammar of component sources. A source is a component exactly if its tokens are gaps and
well-nested blocks and the blocks are a template, at most one script, styles and custom blocks; the
reader returns these blocks.

* `Part`, `Factors`: gaps and blocks, and the tokens they are made of.
* `blocksOf`, `blocksFrom`: the blocks of the parts.
* `Factors.unique`: there is one way to take the tokens apart.
* `parse_ok_iff`: what the reader returns, in terms of the parts.
-/

namespace Graft

open Markup (Attr Token Nested NestedFrom isStop level_nil nestedFrom_cons nestedFrom_nil nesting
  nesting_nonneg nesting_of_isStop slices spelledAttrs spelledName tagName tail tokens)

/-! ## Parts -/

/-- Text, comments and doctypes between blocks. -/
def isGap (t : Token) : Bool :=
  match t.kind with
  | .text _ => true
  | .comment _ => true
  | .doctype _ => true
  | _ => false

/-- The attributes of a tag as written, without repeated keys. -/
def tagAttrs (t : Token) : List Attr :=
  match t.kind with
  | .startTag _ attrs => Attrs.distinct (spelledAttrs t.raw attrs)
  | .selfClosing _ attrs => Attrs.distinct (spelledAttrs t.raw attrs)
  | _ => []

/-- A part of a source. -/
inductive Part where
  | gap (t : Token)
  /-- A block that is one self-closing tag. -/
  | single (t : Token)
  | pair (start : Token) (inner : List Token) (stop : Token)
deriving DecidableEq

namespace Part

def tokens : Part → List Token
  | gap t => [t]
  | single t => [t]
  | pair start inner stop => start :: (inner ++ [stop])

/-- What the tokens of a part look like. -/
def WellFormed : Part → Prop
  | gap t => isGap t = true
  | single t => ∃ lowered attrs, t.kind = .selfClosing lowered attrs
  | pair start inner stop =>
    (∃ lowered attrs, start.kind = .startTag lowered attrs) ∧ Nested (tagName start) inner ∧
      isStop (tagName start) stop = true

/-- The block a part is. -/
def block? : Part → Option Block
  | gap _ => none
  | single t => some ⟨tagName t, tagAttrs t, []⟩
  | pair start inner _ => some ⟨tagName start, tagAttrs start, slices inner⟩

/-- The same with its content padded, if `feeds` line feeds stand before it. -/
def padded? (pad : Padding) (feeds : Nat) : Part → Option Block
  | gap _ => none
  | single t => some ⟨tagName t, tagAttrs t, []⟩
  | pair start inner _ =>
    some
      { type := tagName start
        attrs := tagAttrs start
        content := padding pad (tagName start) (tagAttrs start) (feeds + start.raw.lineFeeds) ++
          slices inner }

end Part

/-- The blocks of parts, with their content as it stands in the source. -/
def blocksOf (parts : List Part) : List Block := parts.filterMap Part.block?

/-- The blocks of parts that have `feeds` line feeds before them, padded. -/
def blocksFrom (pad : Padding) : Nat → List Part → List Block
  | _, [] => []
  | feeds, part :: parts =>
    (part.padded? pad feeds).toList ++
      blocksFrom pad (feeds + (slices part.tokens).lineFeeds) parts

/-- Tokens taken apart into gaps and blocks. -/
structure Factors (parts : List Part) (ts : List Token) : Prop where
  tokens : parts.flatMap Part.tokens = ts
  wellFormed : ∀ part ∈ parts, part.WellFormed

/-- The first end tag at which nothing is open ends a nested run. -/
theorem nested_split_unique {depth : Int} {type : Bytes} {ts us ts' us' : List Token}
    {stop stop' : Token} (h : NestedFrom depth type ts) (h' : NestedFrom depth type ts')
    (hs : isStop type stop = true) (hs' : isStop type stop' = true)
    (he : ts ++ stop :: us = ts' ++ stop' :: us') : ts = ts' ∧ stop = stop' ∧ us = us' := by
  induction ts generalizing depth ts' with
  | nil =>
    cases ts' with
    | nil =>
      obtain ⟨rfl, rfl⟩ := List.cons.inj he
      exact ⟨rfl, rfl, rfl⟩
    | cons t ts' =>
      obtain ⟨rfl, _⟩ := List.cons.inj he
      have h1 := nestedFrom_nil.1 h
      have h2 := (nestedFrom_cons.1 h').2.nonneg [] List.nil_prefix
      rw [nesting_of_isStop hs, level_nil] at h2
      omega
  | cons t ts ih =>
    cases ts' with
    | nil =>
      obtain ⟨rfl, _⟩ := List.cons.inj he
      have h1 := nestedFrom_nil.1 h'
      have h2 := (nestedFrom_cons.1 h).2.nonneg [] List.nil_prefix
      rw [nesting_of_isStop hs', level_nil] at h2
      omega
    | cons t' ts' =>
      obtain ⟨rfl, hmore⟩ := List.cons.inj he
      obtain ⟨rfl, hstop, hus⟩ := ih (nestedFrom_cons.1 h).2 (nestedFrom_cons.1 h').2 hmore
      exact ⟨rfl, hstop, hus⟩

theorem Part.tokens_ne_nil (part : Part) : part.tokens ≠ [] := by
  cases part <;> exact List.cons_ne_nil _ _

theorem Part.unique {part part' : Part} (h : part.WellFormed) (h' : part'.WellFormed)
    {us us' : List Token} (he : part.tokens ++ us = part'.tokens ++ us') :
    part = part' ∧ us = us' := by
  cases part with
  | gap t =>
    cases part' with
    | gap t' =>
      obtain ⟨rfl, rfl⟩ := List.cons.inj he
      exact ⟨rfl, rfl⟩
    | single t' =>
      obtain ⟨rfl, _⟩ := List.cons.inj he
      obtain ⟨_, _, hk⟩ := h'
      simp [WellFormed, isGap, hk] at h
    | pair start inner stop =>
      obtain ⟨rfl, _⟩ := List.cons.inj he
      obtain ⟨⟨_, _, hk⟩, _⟩ := h'
      simp [WellFormed, isGap, hk] at h
  | single t =>
    obtain ⟨lowered, attrs, hk⟩ := h
    cases part' with
    | gap t' =>
      obtain ⟨rfl, _⟩ := List.cons.inj he
      simp [WellFormed, isGap, hk] at h'
    | single t' =>
      obtain ⟨rfl, rfl⟩ := List.cons.inj he
      exact ⟨rfl, rfl⟩
    | pair start inner stop =>
      obtain ⟨rfl, _⟩ := List.cons.inj he
      obtain ⟨⟨_, _, hk'⟩, _⟩ := h'
      rw [hk] at hk'
      cases hk'
  | pair start inner stop =>
    obtain ⟨⟨lowered, attrs, hk⟩, hn, hs⟩ := h
    cases part' with
    | gap t' =>
      obtain ⟨rfl, _⟩ := List.cons.inj he
      simp [WellFormed, isGap, hk] at h'
    | single t' =>
      obtain ⟨rfl, _⟩ := List.cons.inj he
      obtain ⟨_, _, hk'⟩ := h'
      rw [hk] at hk'
      cases hk'
    | pair start' inner' stop' =>
      obtain ⟨_, hn', hs'⟩ := h'
      obtain ⟨rfl, _⟩ := List.cons.inj he
      have hmore : inner ++ [stop] ++ us = inner' ++ [stop'] ++ us' := (List.cons.inj he).2
      rw [List.append_assoc, List.append_assoc] at hmore
      obtain ⟨rfl, rfl, rfl⟩ := nested_split_unique hn hn' hs hs' hmore
      exact ⟨rfl, rfl⟩

theorem Factors.unique {parts parts' : List Part} {ts : List Token} (h : Factors parts ts)
    (h' : Factors parts' ts) : parts = parts' := by
  induction parts generalizing parts' ts with
  | nil =>
    cases parts' with
    | nil => rfl
    | cons part parts' =>
      have he := h.tokens.trans h'.tokens.symm
      rw [List.flatMap_nil, List.flatMap_cons] at he
      exact absurd (List.append_eq_nil_iff.1 he.symm).1 part.tokens_ne_nil
  | cons part parts ih =>
    cases parts' with
    | nil =>
      have he := h.tokens.trans h'.tokens.symm
      rw [List.flatMap_nil, List.flatMap_cons] at he
      exact absurd (List.append_eq_nil_iff.1 he).1 part.tokens_ne_nil
    | cons part' parts' =>
      have he := h.tokens.trans h'.tokens.symm
      rw [List.flatMap_cons, List.flatMap_cons] at he
      obtain ⟨rfl, hrest⟩ := Part.unique (h.wellFormed _ (List.mem_cons_self ..))
        (h'.wellFormed _ (List.mem_cons_self ..)) he
      rw [ih ⟨rfl, fun p hp => h.wellFormed p (List.mem_cons_of_mem _ hp)⟩
        ⟨hrest.symm, fun p hp => h'.wellFormed p (List.mem_cons_of_mem _ hp)⟩]

/-! ## Filing blocks -/

/-- The blocks of a type. -/
def ofType (type : Bytes) (blocks : List Block) : List Block := blocks.filter fun b => b.type == type

/-- The blocks that are neither template nor script nor style. -/
def customOf (blocks : List Block) : List Block :=
  blocks.filter fun b =>
    b.type != BlockType.template && b.type != BlockType.script && b.type != BlockType.style

/-- `r'` holds the blocks of `r` and the given ones behind them. -/
structure Filed (blocks : List Block) (r r' : Reading) : Prop where
  template : r'.template.toList = r.template.toList ++ ofType BlockType.template blocks
  script : r'.auxiliary.script.toList =
    r.auxiliary.script.toList ++ ofType BlockType.script blocks
  styles : r'.auxiliary.styles = r.auxiliary.styles ++ ofType BlockType.style blocks
  custom : r'.auxiliary.custom = r.auxiliary.custom ++ customOf blocks

theorem ofType_append (type : Bytes) (bs cs : List Block) :
    ofType type (bs ++ cs) = ofType type bs ++ ofType type cs := List.filter_append ..

theorem customOf_append (bs cs : List Block) : customOf (bs ++ cs) = customOf bs ++ customOf cs :=
  List.filter_append ..

theorem Filed.nil {r r' : Reading} (ht : r'.template = r.template)
    (ha : r'.auxiliary = r.auxiliary) : Filed [] r r' := by
  constructor <;> simp [ht, ha, ofType, customOf]

theorem Filed.trans {bs cs : List Block} {r r' r'' : Reading} (h : Filed bs r r')
    (h' : Filed cs r' r'') : Filed (bs ++ cs) r r'' where
  template := by rw [h'.template, h.template, ofType_append, List.append_assoc]
  script := by rw [h'.script, h.script, ofType_append, List.append_assoc]
  styles := by rw [h'.styles, h.styles, ofType_append, List.append_assoc]
  custom := by rw [h'.custom, h.custom, customOf_append, List.append_assoc]

theorem Filed.of_feeds {bs : List Block} {r r' : Reading} {n : Nat}
    (h : Filed bs { r with feeds := n } r') : Filed bs r r' :=
  ⟨h.template, h.script, h.styles, h.custom⟩

/-- There is room for the template and the script among the blocks. -/
structure Fits (blocks : List Block) (r : Reading) : Prop where
  template : (r.template.toList ++ ofType BlockType.template blocks).length ≤ 1
  script : (r.auxiliary.script.toList ++ ofType BlockType.script blocks).length ≤ 1

theorem Fits.feeds {bs : List Block} {r : Reading} {n : Nat} (h : Fits bs r) :
    Fits bs { r with feeds := n } := ⟨h.template, h.script⟩

theorem add_filed {r r' : Reading} {b : Block} (h : r.add b = .ok r') :
    Filed [b] r r' ∧ r'.current = r.current ∧ r'.feeds = r.feeds := by
  unfold Reading.add at h
  split at h
  · rename_i ht
    split at h
    · cases h
    · rename_i hnone
      cases h
      refine ⟨?_, rfl, rfl⟩
      constructor <;> simp [ofType, customOf, ht, hnone, BlockType.template, BlockType.script,
        BlockType.style] <;> decide
  rename_i ht
  split at h
  · rename_i hs
    split at h
    · cases h
    · rename_i hnone
      cases h
      refine ⟨?_, rfl, rfl⟩
      constructor <;> simp [ofType, customOf, hs, hnone, BlockType.template, BlockType.script,
        BlockType.style] <;> decide
  rename_i hs
  split at h
  · rename_i hy
    cases h
    refine ⟨?_, rfl, rfl⟩
    constructor <;> simp [ofType, customOf, hy, BlockType.template, BlockType.script,
        BlockType.style] <;> decide
  · rename_i hy
    cases h
    refine ⟨?_, rfl, rfl⟩
    constructor <;> simp [ofType, customOf, ht, hs, hy]

theorem add_of_fits {r : Reading} {b : Block} {bs : List Block} (h : Fits (b :: bs) r) :
    ∃ r', r.add b = .ok r' := by
  unfold Reading.add
  split
  · rename_i ht
    split
    · rename_i hsome
      have := h.template
      simp [ofType, ht, hsome] at this
    · exact ⟨_, rfl⟩
  split
  · rename_i hs
    split
    · rename_i hsome
      have := h.script
      simp [ofType, hs, hsome] at this
    · exact ⟨_, rfl⟩
  split
  · exact ⟨_, rfl⟩
  · exact ⟨_, rfl⟩

theorem Fits.rest {bs cs : List Block} {r r' : Reading} (h : Fits (bs ++ cs) r)
    (hf : Filed bs r r') : Fits cs r' where
  template := by rw [hf.template, List.append_assoc, ← ofType_append]; exact h.template
  script := by rw [hf.script, List.append_assoc, ← ofType_append]; exact h.script

/-! ## Reading parts -/

/-- Inside a block every token is kept but the end tag at which nothing is open. -/
theorem takeInside_eq (pad : Padding) (r : Reading) (b : OpenBlock) (t : Token) :
    r.takeInside pad b t =
      if isStop b.type t = true ∧ b.depth = 0 then { r with current := none }.add (b.close pad)
      else
        .ok { r with
          current := some { b.keep t.raw with depth := (b.depth + nesting b.type t).toNat } } := by
  unfold Reading.takeInside
  split
  · rename_i lowered attrs hk
    have hs : isStop b.type t = false := by simp [isStop, hk]
    simp only [hs, Bool.false_eq_true, false_and, if_false, nesting, hk]
    split
    · simp [OpenBlock.keep]
    · simp [OpenBlock.keep]
  · rename_i lowered hk
    split
    · rename_i ha
      split
      · rename_i d hd
        rw [if_neg (by simp [hd])]
        have hn : nesting b.type t = -1 := by simp [nesting, hk, ha]
        have hdepth : (b.depth + nesting b.type t).toNat = d := by omega
        rw [hdepth]
      · rename_i hd
        rw [if_pos (by simp [isStop, hk, ha, hd])]
    · rename_i ha
      have hs : isStop b.type t = false := by simp [isStop, hk, ha]
      simp [hs, nesting, hk, ha, OpenBlock.keep]
  · rename_i h1 h2
    have hs : isStop b.type t = false := by
      unfold isStop
      split
      · rename_i hk
        exact absurd hk (h2 _)
      · rfl
    have hn : nesting b.type t = 0 := by
      unfold nesting
      split
      · rename_i hk
        exact absurd hk (h1 _ _)
      · rename_i hk
        exact absurd hk (h2 _)
      · rfl
    simp [hs, hn, OpenBlock.keep]

/-- Filing a block does not look at the line feeds. -/
theorem add_feeds (r : Reading) (n : Nat) (b : Block) :
    { r with feeds := n }.add b =
      match r.add b with
      | .ok r' => .ok { r' with feeds := n }
      | .error e => .error e := by
  unfold Reading.add
  split
  · dsimp only
    split <;> rfl
  split
  · dsimp only
    split <;> rfl
  split <;> rfl

theorem lineFeeds_append (s t : Bytes) : (s ++ t).lineFeeds = s.lineFeeds + t.lineFeeds :=
  List.count_append

/-- The open block after more of its content. -/
def OpenBlock.keepAll (b : OpenBlock) (depth : Nat) (ts : List Token) : OpenBlock :=
  { b with depth := depth, slices := (ts.map Token.raw).reverse ++ b.slices }

theorem takeAll_close {pad : Padding} {r : Reading} {b : OpenBlock} {ts us : List Token}
    {stop : Token} (hb : r.current = some b) (h : NestedFrom b.depth b.type ts)
    (hs : isStop b.type stop = true) :
    r.takeAll pad (ts ++ stop :: us) =
      match { r with current := none }.add ((b.keepAll 0 ts).close pad) with
      | .ok r' =>
        { r' with feeds := r'.feeds + (slices (ts ++ [stop])).lineFeeds }.takeAll pad us
      | .error e => .error e := by
  induction ts generalizing r b with
  | nil =>
    have hd : b.depth = 0 := by
      have := nestedFrom_nil.1 h
      omega
    have hclose : (b.keepAll 0 []).close pad = b.close pad := rfl
    rw [List.nil_append, Reading.takeAll, Reading.take, hb]
    dsimp only
    rw [takeInside_eq, if_pos ⟨hs, hd⟩, hclose]
    cases { r with current := none }.add (b.close pad) with
    | error e => rfl
    | ok r' => simp [slices]
  | cons t ts ih =>
    obtain ⟨hd, hrest⟩ := nestedFrom_cons.1 h
    have hnonneg : 0 ≤ (b.depth : Int) + nesting b.type t := by
      have := hrest.nonneg [] List.nil_prefix
      rw [level_nil] at this
      omega
    have hkeep : ¬ (isStop b.type t = true ∧ b.depth = 0) := by
      rintro ⟨hstop, hzero⟩
      rw [nesting_of_isStop hstop] at hnonneg
      omega
    rw [List.cons_append, Reading.takeAll, Reading.take, hb]
    dsimp only
    rw [takeInside_eq, if_neg hkeep]
    dsimp only
    rw [ih (b := { b.keep t.raw with depth := (b.depth + nesting b.type t).toNat }) rfl
      (by rw [Int.toNat_of_nonneg hnonneg]; exact hrest) hs]
    have hclose : (OpenBlock.keepAll { b.keep t.raw with
          depth := (b.depth + nesting b.type t).toNat } 0 ts).close pad =
        (b.keepAll 0 (t :: ts)).close pad := by
      simp [OpenBlock.keepAll, OpenBlock.keep, OpenBlock.close]
    have hfeeds := add_feeds { r with current := none } (r.feeds + t.raw.lineFeeds)
      ((b.keepAll 0 (t :: ts)).close pad)
    dsimp only at hfeeds ⊢
    rw [hclose, hfeeds]
    cases hadd : Reading.add { r with current := none } ((b.keepAll 0 (t :: ts)).close pad) with
    | error e => rfl
    | ok r' =>
      have hf : r'.feeds = r.feeds := (add_filed hadd).2.2
      dsimp only
      rw [List.cons_append, Markup.slices_cons, lineFeeds_append, hf, Nat.add_assoc]

theorem exists_close {pad : Padding} {r r' : Reading} {b : OpenBlock} {ts : List Token}
    (hb : r.current = some b) (h : r.takeAll pad ts = .ok r') (hc : r'.current = none) :
    ∃ inner stop us, ts = inner ++ stop :: us ∧ NestedFrom b.depth b.type inner ∧
      isStop b.type stop = true := by
  induction ts generalizing r b with
  | nil =>
    cases h
    rw [hb] at hc
    cases hc
  | cons t ts ih =>
    rw [Reading.takeAll, Reading.take, hb] at h
    dsimp only at h
    rw [takeInside_eq] at h
    by_cases hstop : isStop b.type t = true ∧ b.depth = 0
    · exact ⟨[], t, ts, rfl, nestedFrom_nil.2 (by rw [hstop.2]; rfl), hstop.1⟩
    · rw [if_neg hstop] at h
      dsimp only at h
      obtain ⟨inner, stop, us, rfl, hn, hs⟩ :=
        ih (b := { b.keep t.raw with depth := (b.depth + nesting b.type t).toNat }) rfl h
      have hnonneg : 0 ≤ (b.depth : Int) + nesting b.type t := by
        cases ht : isStop b.type t with
        | false =>
          have := nesting_nonneg ht
          omega
        | true =>
          have hd : b.depth ≠ 0 := fun hd => hstop ⟨ht, hd⟩
          have := nesting_of_isStop ht
          omega
      rw [Int.toNat_of_nonneg hnonneg] at hn
      exact ⟨t :: inner, stop, us, rfl, nestedFrom_cons.2 ⟨by omega, hn⟩, hs⟩

theorem takeOutside_gap {t : Token} (h : isGap t = true) (r : Reading) :
    r.takeOutside t = .ok r := by
  unfold isGap at h
  unfold Reading.takeOutside
  cases hk : t.kind <;> rw [hk] at h <;> first | rfl | cases h

/-- The block that a start tag opens. -/
def Reading.opened (r : Reading) (t : Token) : OpenBlock where
  type := tagName t
  attrs := tagAttrs t
  depth := 0
  line := r.feeds + 1
  feeds := r.feeds + t.raw.lineFeeds
  slices := []

/-- A reading with the block of a start tag open. -/
def Reading.enter (r : Reading) (t : Token) : Reading :=
  { r with current := some (r.opened t), feeds := r.feeds + t.raw.lineFeeds }

theorem take_start {pad : Padding} {r : Reading} {t : Token} {lowered : Bytes} {attrs : List Attr}
    (hc : r.current = none) (hk : t.kind = .startTag lowered attrs) :
    r.take pad t = .ok (r.enter t) := by
  rw [Reading.take, hc]
  simp only [Reading.takeOutside, hk, Reading.enter, Reading.opened, tagName, tagAttrs]

theorem takeAll_part {pad : Padding} {r : Reading} {part : Part} (hc : r.current = none)
    (hw : part.WellFormed) (us : List Token) :
    r.takeAll pad (part.tokens ++ us) =
      match part.padded? pad r.feeds with
      | none => { r with feeds := r.feeds + (slices part.tokens).lineFeeds }.takeAll pad us
      | some b =>
        match r.add b with
        | .ok r' => { r' with feeds := r.feeds + (slices part.tokens).lineFeeds }.takeAll pad us
        | .error e => .error e := by
  cases part with
  | gap t =>
    simp only [Part.tokens, List.singleton_append, Reading.takeAll, Reading.take, hc,
      takeOutside_gap hw, Part.padded?, Markup.slices_cons, Markup.slices_nil, List.append_nil]
  | single t =>
    obtain ⟨lowered, attrs, hk⟩ := hw
    have hout : r.takeOutside t = r.add ⟨tagName t, tagAttrs t, []⟩ := by
      simp only [Reading.takeOutside, tagName, tagAttrs, hk]
    simp only [Part.tokens, List.singleton_append, Reading.takeAll, Reading.take, hc, hout,
      Part.padded?, Markup.slices_cons, Markup.slices_nil, List.append_nil]
    cases hadd : r.add ⟨tagName t, tagAttrs t, []⟩ with
    | error e => rfl
    | ok r' => simp only [(add_filed hadd).2.2]
  | pair start inner stop =>
    obtain ⟨⟨lowered, attrs, hk⟩, hn, hs⟩ := hw
    have hclose : ((r.opened start).keepAll 0 inner).close pad =
        { type := tagName start
          attrs := tagAttrs start
          content := padding pad (tagName start) (tagAttrs start)
            (r.feeds + start.raw.lineFeeds) ++ slices inner } := by
      simp [OpenBlock.keepAll, OpenBlock.close, Reading.opened, slices, List.flatMap]
    have happ : Part.tokens (.pair start inner stop) ++ us = start :: (inner ++ stop :: us) := by
      simp [Part.tokens]
    rw [happ, Reading.takeAll, take_start hc hk]
    dsimp only
    rw [takeAll_close (b := r.opened start) rfl hn hs, hclose]
    have hr : { r.enter start with current := none } =
        { r with feeds := r.feeds + start.raw.lineFeeds } := by rw [Reading.enter, hc]
    simp only [Part.padded?, hr, add_feeds]
    cases r.add _ with
    | error e => rfl
    | ok r' =>
      simp only [Part.tokens, Markup.slices_cons, lineFeeds_append, Nat.add_assoc]

theorem takeAll_parts {pad : Padding} {r : Reading} {parts : List Part} (hc : r.current = none)
    (hw : ∀ part ∈ parts, part.WellFormed) (hf : Fits (blocksFrom pad r.feeds parts) r) :
    ∃ r', r.takeAll pad (parts.flatMap Part.tokens) = .ok r' ∧ r'.current = none ∧
      Filed (blocksFrom pad r.feeds parts) r r' := by
  induction parts generalizing r with
  | nil => exact ⟨r, rfl, hc, .nil rfl rfl⟩
  | cons part parts ih =>
    have hmore : ∀ p ∈ parts, p.WellFormed := fun p hp => hw p (List.mem_cons_of_mem _ hp)
    rw [List.flatMap_cons, takeAll_part hc (hw part (List.mem_cons_self ..))]
    cases hblock : part.padded? pad r.feeds with
    | none =>
      simp only [blocksFrom, hblock, Option.toList_none, List.nil_append] at hf ⊢
      obtain ⟨r', htake, hc', hrest⟩ :=
        ih (r := { r with feeds := r.feeds + (slices part.tokens).lineFeeds }) hc hmore hf.feeds
      exact ⟨r', htake, hc', hrest.of_feeds⟩
    | some b =>
      simp only [blocksFrom, hblock, Option.toList_some] at hf ⊢
      obtain ⟨r₁, hadd⟩ := add_of_fits hf
      obtain ⟨hfiled, hcurrent, _⟩ := add_filed hadd
      obtain ⟨r', htake, hc', hrest⟩ :=
        ih (r := { r₁ with feeds := r.feeds + (slices part.tokens).lineFeeds })
          (hcurrent.trans hc) hmore (Fits.feeds (hf.rest hfiled))
      rw [hadd]
      exact ⟨r', htake, hc', hfiled.trans hrest.of_feeds⟩

theorem Factors.cons {part : Part} {parts : List Part} {ts : List Token} (hw : part.WellFormed)
    (h : Factors parts ts) : Factors (part :: parts) (part.tokens ++ ts) where
  tokens := by rw [List.flatMap_cons, h.tokens]
  wellFormed := List.forall_mem_cons.2 ⟨hw, h.wellFormed⟩

/-- The first token shows which part comes first. -/
theorem exists_first_part {pad : Padding} {r r' : Reading} {t : Token} {ts : List Token}
    (hc : r.current = none) (h : r.takeAll pad (t :: ts) = .ok r') (hc' : r'.current = none) :
    ∃ (part : Part) (us : List Token), t :: ts = part.tokens ++ us ∧ part.WellFormed := by
  cases hk : t.kind with
  | text data => exact ⟨.gap t, ts, rfl, by simp [Part.WellFormed, isGap, hk]⟩
  | comment data => exact ⟨.gap t, ts, rfl, by simp [Part.WellFormed, isGap, hk]⟩
  | doctype data => exact ⟨.gap t, ts, rfl, by simp [Part.WellFormed, isGap, hk]⟩
  | selfClosing lowered attrs => exact ⟨.single t, ts, rfl, lowered, attrs, hk⟩
  | endTag lowered =>
    rw [Reading.takeAll, Reading.take, hc] at h
    simp only [Reading.takeOutside, hk] at h
    cases h
  | startTag lowered attrs =>
    rw [Reading.takeAll, take_start hc hk] at h
    obtain ⟨inner, stop, us, rfl, hnest, hs⟩ := exists_close (b := r.opened t) rfl h hc'
    exact ⟨.pair t inner stop, us, by simp [Part.tokens], ⟨lowered, attrs, hk⟩, hnest, hs⟩

theorem factors_of_takeAll {pad : Padding} {r r' : Reading} {ts : List Token}
    (hc : r.current = none) (h : r.takeAll pad ts = .ok r') (hc' : r'.current = none) :
    ∃ parts, Factors parts ts ∧ Filed (blocksFrom pad r.feeds parts) r r' := by
  induction hn : ts.length using Nat.strongRecOn generalizing ts r with
  | ind n ih =>
    cases ts with
    | nil =>
      cases h
      exact ⟨[], ⟨rfl, by simp⟩, .nil rfl rfl⟩
    | cons t ts =>
      obtain ⟨part, us, htokens, hw⟩ := exists_first_part hc h hc'
      rw [htokens, takeAll_part hc hw] at h
      have hlen : us.length < n := by
        rw [← hn, htokens, List.length_append]
        have := List.length_pos_iff.2 part.tokens_ne_nil
        omega
      rw [htokens]
      cases hblock : part.padded? pad r.feeds with
      | none =>
        rw [hblock] at h
        obtain ⟨parts, hparts, hfiled⟩ := ih _ hlen
          (r := { r with feeds := r.feeds + (slices part.tokens).lineFeeds }) hc h rfl
        refine ⟨part :: parts, hparts.cons hw, ?_⟩
        simp only [blocksFrom, hblock, Option.toList_none, List.nil_append]
        exact hfiled.of_feeds
      | some b =>
        rw [hblock] at h
        dsimp only at h
        cases hadd : r.add b with
        | error e => rw [hadd] at h; cases h
        | ok r₁ =>
          rw [hadd] at h
          obtain ⟨hadded, hcurrent, _⟩ := add_filed hadd
          obtain ⟨parts, hparts, hfiled⟩ := ih _ hlen
            (r := { r₁ with feeds := r.feeds + (slices part.tokens).lineFeeds })
            (hcurrent.trans hc) h rfl
          refine ⟨part :: parts, hparts.cons hw, ?_⟩
          simp only [blocksFrom, hblock, Option.toList_some]
          exact hadded.trans hfiled.of_feeds

/-! ## Components -/

/-- The blocks of a component, each kind in source order. -/
structure Distributed (blocks : List Block) (c : Component) : Prop where
  template : ofType BlockType.template blocks = [c.template]
  script : ofType BlockType.script blocks = c.auxiliary.script.toList
  styles : ofType BlockType.style blocks = c.auxiliary.styles
  custom : customOf blocks = c.auxiliary.custom

/-- A template whose directives make sense. -/
structure ValidDirectives (template : Block) : Prop where
  extends_ : ∀ val, template.extends? = some val → Space.isBlank val = false
  extendable : ∀ val, Attr.find? Directive.extendable template.attrs = some val →
    val = [] ∨ val = Directive.extendable

/-- Blocks that make a component. -/
structure Acceptable (blocks : List Block) : Prop where
  template : (ofType BlockType.template blocks).length = 1
  script : (ofType BlockType.script blocks).length ≤ 1
  directives : ∀ b ∈ ofType BlockType.template blocks, ValidDirectives b

theorem directiveError?_eq_none {template : Block} :
    Reading.directiveError? template = none ↔ ValidDirectives template := by
  have hextendable : Reading.directiveError?.extendable template = none ↔
      ∀ val, Attr.find? Directive.extendable template.attrs = some val →
        val = [] ∨ val = Directive.extendable := by
    unfold Reading.directiveError?.extendable
    split
    · rename_i val hval
      split <;> simp_all
    · simp_all
  unfold Reading.directiveError?
  split
  · rename_i val hval
    split
    · rename_i hblank
      constructor
      · intro h
        cases h
      · intro h
        rw [h.extends_ val hval] at hblank
        cases hblank
    · rename_i hblank
      rw [hextendable]
      refine ⟨fun h => ⟨fun val' hval' => ?_, h⟩, fun h => h.extendable⟩
      rw [hval] at hval'
      cases hval'
      simpa using hblank
  · rename_i hnone
    rw [hextendable]
    refine ⟨fun h => ⟨fun val' hval' => ?_, h⟩, fun h => h.extendable⟩
    rw [hnone] at hval'
    cases hval'

theorem Filed.empty_iff {blocks : List Block} {r : Reading} {template : Block}
    (ht : r.template = some template) :
    Filed blocks .empty r ↔ Distributed blocks ⟨template, r.auxiliary⟩ := by
  constructor
  · rintro ⟨h1, h2, h3, h4⟩
    exact ⟨by rw [ht] at h1; exact h1.symm, h2.symm, h3.symm, h4.symm⟩
  · rintro ⟨h1, h2, h3, h4⟩
    exact ⟨by rw [ht]; exact h1.symm, h2.symm, h3.symm, h4.symm⟩

theorem eq_of_toList_eq {a b : Option Block} (h : a.toList = b.toList) : a = b := by
  cases a with
  | none =>
    cases b with
    | none => rfl
    | some b => cases h
  | some a =>
    cases b with
    | none => cases h
    | some b => rw [(List.cons.inj h).1]

theorem Distributed.eq {blocks : List Block} {c c' : Component} (h : Distributed blocks c)
    (h' : Distributed blocks c') : c = c' := by
  obtain ⟨template, ⟨script, styles, custom⟩⟩ := c
  obtain ⟨template', ⟨script', styles', custom'⟩⟩ := c'
  have ht := h.template.symm.trans h'.template
  have hs : script = script' := eq_of_toList_eq (h.script.symm.trans h'.script)
  have hy := h.styles.symm.trans h'.styles
  have hc := h.custom.symm.trans h'.custom
  simp only [List.cons.injEq, and_true] at ht hy hc
  rw [ht, hs, hy, hc]

/-- The reader returns a component exactly if the tokens are parts and the component has their
blocks. -/
theorem parse_ok_iff {pad : Padding} {source : Bytes} {c : Component} :
    Component.parse pad source = .ok c ↔
      ∃ parts, Factors parts (tokens source) ∧ Distributed (blocksFrom pad 0 parts) c ∧
        ValidDirectives c.template := by
  constructor
  · intro h
    unfold Component.parse at h
    split at h
    · rename_i r hr
      unfold Reading.finish at h
      split at h
      · cases h
      rename_i hcurrent
      split at h
      · cases h
      rename_i template ht
      split at h
      · cases h
      rename_i hd
      cases h
      obtain ⟨parts, hparts, hfiled⟩ := factors_of_takeAll rfl hr hcurrent
      exact ⟨parts, hparts, (Filed.empty_iff ht).1 hfiled, directiveError?_eq_none.1 hd⟩
    · cases h
  · rintro ⟨parts, hparts, hdist, hvalid⟩
    have hscript : c.auxiliary.script.toList.length ≤ 1 := by
      cases c.auxiliary.script <;> simp
    have hfits : Fits (blocksFrom pad Reading.empty.feeds parts) .empty :=
      ⟨by simp [Reading.empty, hdist.template], by simp [Reading.empty, hdist.script, hscript]⟩
    obtain ⟨r, htake, hcurrent, hfiled⟩ := takeAll_parts rfl hparts.wellFormed hfits
    have ht : r.template = some c.template := by
      have h := hfiled.template
      rw [show ofType BlockType.template (blocksFrom pad Reading.empty.feeds parts) = [c.template]
        from hdist.template] at h
      exact eq_of_toList_eq h
    have hc : ⟨c.template, r.auxiliary⟩ = c :=
      ((Filed.empty_iff ht).1 hfiled).eq hdist
    rw [Component.parse, ← hparts.tokens, htake]
    dsimp only
    rw [Reading.finish, hcurrent, ht]
    dsimp only
    rw [directiveError?_eq_none.2 hvalid, hc]

theorem blocksOf_cons (part : Part) (parts : List Part) :
    blocksOf (part :: parts) = part.block?.toList ++ blocksOf parts := by
  rw [blocksOf, List.filterMap_cons]
  cases part <;> rfl

theorem blocksFrom_none (feeds : Nat) (parts : List Part) :
    blocksFrom .none feeds parts = blocksOf parts := by
  induction parts generalizing feeds with
  | nil => rfl
  | cons part parts ih =>
    rw [blocksFrom, ih]
    cases part <;> rfl

/-- The reader accepts the sources whose tokens are gaps and well-nested blocks, among them one
template and at most one script. There is one way to take the tokens apart, and the component has
the blocks, each with the source between its tags. -/
theorem parse_iff_grammar (source : Bytes) :
    ((∃ c, Component.parse .none source = .ok c) ↔
      ∃ parts, Factors parts (tokens source) ∧ Acceptable (blocksOf parts)) ∧
    (∀ parts parts', Factors parts (tokens source) → Factors parts' (tokens source) →
      parts = parts') ∧
    ∀ parts, Factors parts (tokens source) →
      slices (parts.flatMap Part.tokens) ++ tail source = source ∧
        ∀ c, Component.parse .none source = .ok c → Distributed (blocksOf parts) c := by
  refine ⟨⟨?_, ?_⟩, fun parts parts' h h' => h.unique h', fun parts h => ⟨?_, ?_⟩⟩
  · rintro ⟨c, hc⟩
    obtain ⟨parts, hparts, hdist, hvalid⟩ := parse_ok_iff.1 hc
    rw [blocksFrom_none] at hdist
    refine ⟨parts, hparts, by rw [hdist.template]; rfl, ?_, ?_⟩
    · rw [hdist.script]
      cases c.auxiliary.script <;> simp
    · intro b hb
      rw [hdist.template] at hb
      rwa [List.mem_singleton.1 hb]
  · rintro ⟨parts, hparts, ht, hs, hd⟩
    obtain ⟨template, htemplate⟩ := List.length_eq_one_iff.1 ht
    have hscript : ∃ script : Option Block,
        ofType BlockType.script (blocksOf parts) = script.toList := by
      match hsc : ofType BlockType.script (blocksOf parts), hs with
      | [], _ => exact ⟨none, rfl⟩
      | [b], _ => exact ⟨some b, rfl⟩
    obtain ⟨script, hscript⟩ := hscript
    refine ⟨⟨template, script, ofType BlockType.style (blocksOf parts), customOf (blocksOf parts)⟩,
      parse_ok_iff.2 ⟨parts, hparts, ?_, ?_⟩⟩
    · rw [blocksFrom_none]
      exact ⟨htemplate, hscript, rfl, rfl⟩
    · exact hd template (by rw [htemplate]; exact List.mem_singleton_self _)
  · rw [h.tokens]
    exact Markup.slices_tokens source
  · intro c hc
    obtain ⟨parts', hparts', hdist, _⟩ := parse_ok_iff.1 hc
    rw [h.unique hparts', ← blocksFrom_none 0]
    exact hdist

end Graft
