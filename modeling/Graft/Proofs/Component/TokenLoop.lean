import Graft.Proofs.Component.Grammar
import Graft.Proofs.Markup.SourceSpelling

/-!
# Graft.Proofs.Component.TokenLoop

The two loops over the tokens of a source, each with an offset that it advances by the length of
every slice. The slices are cut from the source at the offset; a cut outside the source and a turn
too many give nothing.

* `modeBehind_eq`: what the loops take back of the raw text that a tag announces.
* `ByOffset.loop`: a loop over tokens.
* `ByOffset.loop_of_ok`, `ByOffset.loop_exact`: a turn and a run of it.
* `ByOffset.Reading`, `ByOffset.take_same`: the blocks found so far, the open one with the offset of
  its content.
* `token_loops_exact`: the theorem.
-/

namespace Graft

open Markup

namespace Markup

/-- The raw element whose content a tag announces: its name in lower case decides. -/
def Token.Kind.announced? : Token.Kind → Option RawElement
  | .startTag lowered _ => RawElement.ofName? lowered
  | .selfClosing lowered _ => RawElement.ofName? lowered
  | _ => none

/-- Whether the announcement is taken back: behind a self-closing tag, and behind one that is not
written in lower case. -/
def takenBack (raw : Bytes) : Token.Kind → Bool
  | .startTag lowered _ => spelledName raw lowered != lowered
  | .selfClosing _ _ => true
  | _ => false

def modeBehind (raw : Bytes) (kind : Token.Kind) : Mode :=
  match kind.announced? with
  | some element => if takenBack raw kind then .markup else .raw element
  | none => .markup

theorem modeBehind_eq (t : Token) : modeBehind t.raw t.kind = t.mode := by
  unfold modeBehind Token.mode
  cases t.kind with
  | startTag lowered attrs =>
    simp only [Token.Kind.announced?, takenBack, bne_iff_ne, ne_eq]
    by_cases hspelled : spelledName t.raw lowered = lowered
    · cases RawElement.ofName? lowered <;> simp [hspelled]
    · cases RawElement.ofName? lowered <;> simp [hspelled]
  | selfClosing lowered attrs =>
    cases hname : RawElement.ofName? lowered <;> simp [Token.Kind.announced?, takenBack, hname]
  | text | comment | doctype | endTag => rfl

/-- The slices of all tokens, and what is left behind the last one. -/
def cuts (source : Bytes) : List Bytes := (tokens source).map Token.raw ++ [tail source]

end Markup

/-! ## A loop with an offset -/

namespace ByOffset

open Markup.ByPosition (piece?)

variable {σ τ ε : Type}

/-- A loop over the tokens of a source, with its slices in order. The token that a turn takes in has
the slice that was cut at the offset, and so has the mode of the next turn. -/
def loop (take : σ → Nat → Token → Option (Except ε σ)) (source : Bytes) :
    (turns : Nat) → Mode → (unread : Bytes) → (offset : Nat) → σ →
      Option (List Bytes × Except ε σ)
  | 0, _, _, _, _ => none
  | turns + 1, mode, unread, offset, state =>
    match scan mode unread with
    | .finished rest => do
      let raw ← piece? source offset (offset + rest.length)
      some ([raw], .ok state)
    | .token t behind => do
      let raw ← piece? source offset (offset + t.raw.length)
      match ← take state offset ⟨raw, t.kind⟩ with
      | .error e => some ([raw], .error e)
      | .ok state => do
        let (raws, out) ←
          loop take source turns (modeBehind raw t.kind) behind (offset + raw.length) state
        some (raw :: raws, out)

/-- The same error, or two states in a relation. -/
inductive SameOutcome (same : σ → τ → Prop) : Except ε σ → Except ε τ → Prop where
  | error {e : ε} : SameOutcome same (.error e) (.error e)
  | ok {s : σ} {r : τ} : same s r → SameOutcome same (.ok s) (.ok r)

/-- What the source behind an offset is. -/
structure Unread (source : Bytes) (offset : Nat) (unread : Bytes) : Prop where
  drop : source.drop offset = unread
  le : offset ≤ source.length

theorem Unread.piece? {source raw behind : Bytes} {offset : Nat}
    (h : Unread source offset (raw ++ behind)) :
    piece? source offset (offset + raw.length) = some raw := by
  have hlength := congrArg List.length h.drop
  rw [List.length_drop, List.length_append] at hlength
  have hle := h.le
  rw [ByPosition.piece?, if_pos ⟨by omega, by omega⟩, h.drop, Nat.add_sub_cancel_left,
    List.take_left]

theorem Unread.advance {source raw behind : Bytes} {offset : Nat}
    (h : Unread source offset (raw ++ behind)) : Unread source (offset + raw.length) behind := by
  have hlength := congrArg List.length h.drop
  rw [List.length_drop, List.length_append] at hlength
  have hle := h.le
  refine ⟨?_, by omega⟩
  rw [← List.drop_drop, h.drop, List.drop_left]

section

variable {take : σ → Nat → Token → Option (Except ε σ)} {source unread behind : Bytes}
  {turns offset : Nat} {mode : Mode} {state next : σ} {t : Token} {e : ε}

theorem loop_of_error (hunread : Unread source offset unread)
    (hscan : scan mode unread = .token t behind) (htake : take state offset t = some (.error e)) :
    loop take source (turns + 1) mode unread offset state = some ([t.raw], .error e) := by
  rw [← scan_append hscan] at hunread
  simp [loop, hscan, hunread.piece?, htake]

theorem loop_of_ok (hunread : Unread source offset unread)
    (hscan : scan mode unread = .token t behind) (htake : take state offset t = some (.ok next)) :
    loop take source (turns + 1) mode unread offset state =
      (loop take source turns t.mode behind (offset + t.raw.length) next).map
        fun (raws, out) => (t.raw :: raws, out) := by
  rw [← scan_append hscan] at hunread
  simp only [loop, hscan, hunread.piece?, htake, modeBehind_eq, Option.bind_eq_bind,
    Option.bind_some]
  cases loop take source turns t.mode behind (offset + t.raw.length) next <;> rfl

theorem loop_of_finished {rest : Bytes} (hunread : Unread source offset unread)
    (hscan : scan mode unread = .finished rest) :
    loop take source (turns + 1) mode unread offset state = some ([unread], .ok state) := by
  obtain rfl := scan_finished hscan
  have hall : Unread source offset (rest ++ []) := by rwa [List.append_nil]
  simp [loop, hscan, hall.piece?]

end

/-- What a loop cuts: everything if it comes to the end, the slices of some tokens if it stops at an
error. -/
def CutsOf (mode : Mode) (unread : Bytes) (raws : List Bytes) : Except ε σ → Prop
  | .ok _ => raws = (tokensFrom mode unread).map Token.raw ++ [tailFrom mode unread]
  | .error _ => raws <+: (tokensFrom mode unread).map Token.raw

theorem CutsOf.cons {mode : Mode} {unread behind : Bytes} {t : Token} {raws : List Bytes}
    {out : Except ε σ} (h : CutsOf t.mode behind raws out)
    (hscan : scan mode unread = .token t behind) :
    CutsOf mode unread (t.raw :: raws) out := by
  cases out with
  | ok state =>
    rw [CutsOf] at h ⊢
    rw [tokensFrom_of_token hscan, tailFrom_of_token hscan, h, List.map_cons, List.cons_append]
  | error e =>
    rw [CutsOf] at h ⊢
    rw [tokensFrom_of_token hscan, List.map_cons]
    exact (List.prefix_cons_inj t.raw).2 h

/-- With a turn for each byte that is left, and one for the end, a loop ends. It does what taking in
the tokens one after the other does, if it does so at every offset. -/
theorem loop_exact {take : σ → Nat → Token → Option (Except ε σ)} {step : τ → Token → Except ε τ}
    {source : Bytes} {same : Nat → σ → τ → Prop}
    (htake : ∀ (offset : Nat) (s : σ) (r : τ) (t : Token) (behind : Bytes), same offset s r →
      Unread source offset (t.raw ++ behind) →
      ∃ out, take s offset t = some out ∧ SameOutcome (same (offset + t.raw.length)) out (step r t))
    {turns offset : Nat} {mode : Mode} {unread : Bytes} {s : σ} {r : τ}
    (hunread : Unread source offset unread) (hturns : unread.length < turns)
    (hsame : same offset s r) :
    ∃ raws out, loop take source turns mode unread offset s = some (raws, out) ∧
      CutsOf mode unread raws out ∧
      SameOutcome (fun s r => ∃ n, same n s r) out ((tokensFrom mode unread).foldlM step r) := by
  induction turns generalizing offset mode unread s r with
  | zero => omega
  | succ turns ih =>
    cases hscan : scan mode unread with
    | finished rest =>
      rw [tokensFrom_of_finished hscan]
      refine ⟨[unread], .ok s, loop_of_finished hunread hscan, ?_, .ok ⟨offset, hsame⟩⟩
      rw [CutsOf, tokensFrom_of_finished hscan, tailFrom_of_finished hscan]
      rfl
    | token t behind =>
      have happ := scan_append hscan
      obtain ⟨out, hout, hsame'⟩ := htake offset s r t behind hsame (by rwa [happ])
      have hbehind : Unread source (offset + t.raw.length) behind := by
        rw [← happ] at hunread
        exact hunread.advance
      have hshorter := scan_length hscan
      rw [tokensFrom_of_token hscan, List.foldlM_cons]
      generalize step r t = next at hsame'
      cases hsame' with
      | error =>
        refine ⟨_, _, loop_of_error hunread hscan hout, ?_, .error⟩
        rw [CutsOf, tokensFrom_of_token hscan]
        exact List.prefix_append [t.raw] _
      | @ok s' r' hnext =>
        obtain ⟨raws, out, hrest, hcuts, hfold⟩ := @ih _ t.mode behind s' r' hbehind (by omega) hnext
        rw [loop_of_ok hunread hscan hout, hrest]
        exact ⟨_, _, rfl, hcuts.cons hscan, hfold⟩

/-! ## Blocks by offsets -/

/-- A block whose end tag has not been read, and the offset at which its content begins. -/
structure OpenBlock where
  type : Bytes
  attrs : List Attr
  depth : Nat
  line : Nat
  start : Nat

structure Reading where
  template : Option Block
  auxiliary : Auxiliary
  current : Option OpenBlock

/-- The line feeds of the source in front of an offset. -/
def feedsBefore? (source : Bytes) (offset : Nat) : Option Nat :=
  (piece? source 0 offset).map Bytes.lineFeeds

/-- The content up to an offset, behind its padding. -/
def OpenBlock.content? (pad : Padding) (source : Bytes) (b : OpenBlock) (stop : Nat) :
    Option Bytes := do
  let feeds ← feedsBefore? source b.start
  let body ← piece? source b.start stop
  some (padding pad b.type b.attrs feeds ++ body)

namespace Reading

def empty : Reading := ⟨none, ⟨none, [], []⟩, none⟩

/-- What is found so far, with no block open. -/
def found (r : Reading) : Graft.Reading := ⟨r.template, r.auxiliary, none, 0⟩

def add (r : Reading) (b : Block) : Except SourceError Reading :=
  (r.found.add b).map fun found => ⟨found.template, found.auxiliary, none⟩

def takeOutside (source : Bytes) (r : Reading) (offset : Nat) (t : Token) :
    Option (Except SourceError Reading) :=
  match t.kind with
  | .startTag lowered attrs => do
    let feeds ← feedsBefore? source offset
    let block : OpenBlock :=
      { type := spelledName t.raw lowered
        attrs := Attrs.distinct (spelledAttrs t.raw attrs)
        depth := 0
        line := feeds + 1
        start := offset + t.raw.length }
    some (.ok { r with current := some block })
  | .selfClosing lowered attrs =>
    some (r.add ⟨spelledName t.raw lowered, Attrs.distinct (spelledAttrs t.raw attrs), []⟩)
  | .endTag lowered => do
    let feeds ← feedsBefore? source offset
    some (.error (.unexpectedEnd (spelledName t.raw lowered) (feeds + 1)))
  | _ => some (.ok r)

def takeInside (pad : Padding) (source : Bytes) (r : Reading) (b : OpenBlock) (offset : Nat)
    (t : Token) : Option (Except SourceError Reading) :=
  match t.kind with
  | .startTag lowered _ =>
    let depth := if Fold.alike (spelledName t.raw lowered) b.type then b.depth + 1 else b.depth
    some (.ok { r with current := some { b with depth := depth } })
  | .endTag lowered =>
    if Fold.alike (spelledName t.raw lowered) b.type then
      match b.depth with
      | depth + 1 => some (.ok { r with current := some { b with depth := depth } })
      | 0 => do
        let content ← b.content? pad source offset
        some (r.add ⟨b.type, b.attrs, content⟩)
    else some (.ok r)
  | _ => some (.ok r)

/-- Takes in the token at an offset. -/
def take (pad : Padding) (source : Bytes) (r : Reading) (offset : Nat) (t : Token) :
    Option (Except SourceError Reading) :=
  match r.current with
  | some b => r.takeInside pad source b offset t
  | none => r.takeOutside source offset t

def finish (r : Reading) : Except SourceError Component :=
  match r.current with
  | some b => .error (.unterminated b.type b.line)
  | none => r.found.finish

end Reading

/-- Two open blocks, the first with the offset of its content, the second with the slices read
since. -/
structure SameBlock (source : Bytes) (offset : Nat) (b : OpenBlock) (c : Graft.OpenBlock) : Prop where
  type : c.type = b.type
  attrs : c.attrs = b.attrs
  depth : c.depth = b.depth
  line : c.line = b.line
  start_le : b.start ≤ offset
  feeds : c.feeds = Bytes.lineFeeds (source.take b.start)
  content : source.drop b.start = c.slices.reverse.flatten ++ source.drop offset

structure SameReading (source : Bytes) (offset : Nat) (s : Reading) (r : Graft.Reading) : Prop where
  template : r.template = s.template
  auxiliary : r.auxiliary = s.auxiliary
  current : Option.Rel (SameBlock source offset) s.current r.current
  feeds : r.feeds = Bytes.lineFeeds (source.take offset)

section

variable {source behind : Bytes} {offset : Nat} {s : Reading} {r : Graft.Reading} {t : Token}
  {b : OpenBlock} {c : Graft.OpenBlock}

theorem feedsBefore?_eq (h : offset ≤ source.length) :
    feedsBefore? source offset = some (Bytes.lineFeeds (source.take offset)) := by
  rw [feedsBefore?, ByPosition.piece?, if_pos ⟨Nat.zero_le _, h⟩, List.drop_zero, Nat.sub_zero,
    Option.map_some]

theorem Unread.feeds (h : Unread source offset (t.raw ++ behind)) :
    Bytes.lineFeeds (source.take (offset + t.raw.length)) =
      Bytes.lineFeeds (source.take offset) + t.raw.lineFeeds := by
  rw [List.take_add, h.drop, List.take_left, lineFeeds_append]

theorem SameBlock.content? (h : SameBlock source offset b c) (hle : offset ≤ source.length)
    (pad : Padding) : b.content? pad source offset = some (c.close pad).content := by
  have hstart := h.start_le
  have hlength := congrArg List.length h.content
  rw [List.length_drop, List.length_append, List.length_drop] at hlength
  have hbody : piece? source b.start offset = some c.slices.reverse.flatten := by
    rw [ByPosition.piece?, if_pos ⟨hstart, hle⟩, h.content]
    have hsub : offset - b.start = c.slices.reverse.flatten.length := by omega
    rw [hsub, List.take_left]
  simp only [OpenBlock.content?, feedsBefore?_eq (Nat.le_trans hstart hle), hbody,
    Option.bind_eq_bind, Option.bind_some, OpenBlock.close, h.type, h.attrs, h.feeds]

theorem SameBlock.keep (h : SameBlock source offset b c)
    (hunread : Unread source offset (t.raw ++ behind)) {depth depth' : Nat} (hdepth : depth' = depth) :
    SameBlock source (offset + t.raw.length) { b with depth := depth }
      { c.keep t.raw with depth := depth' } where
  type := h.type
  attrs := h.attrs
  depth := hdepth
  line := h.line
  start_le := Nat.le_trans h.start_le (Nat.le_add_right _ _)
  feeds := h.feeds
  content := by
    rw [h.content, hunread.drop, hunread.advance.drop, OpenBlock.keep]
    simp

theorem SameReading.current_cases (h : SameReading source offset s r) :
    (s.current = none ∧ r.current = none) ∨
      ∃ b c, s.current = some b ∧ r.current = some c ∧ SameBlock source offset b c := by
  have hcurrent := h.current
  generalize s.current = current, r.current = current' at hcurrent
  cases hcurrent with
  | none => exact .inl ⟨rfl, rfl⟩
  | some hblock => exact .inr ⟨_, _, rfl, rfl, hblock⟩

/-- A result with the line feeds of one more slice. -/
def counted (feeds : Nat) (out : Except SourceError Graft.Reading) : Except SourceError Graft.Reading :=
  out.map fun r => { r with feeds := r.feeds + feeds }

theorem take_eq_counted (pad : Padding) (r : Graft.Reading) (t : Token) :
    r.take pad t = counted t.raw.lineFeeds
      (match r.current with
        | some b => r.takeInside pad b t
        | none => r.takeOutside t) := by
  unfold Graft.Reading.take
  cases r.current with
  | none =>
    dsimp only
    cases r.takeOutside t <;> rfl
  | some b =>
    dsimp only
    cases r.takeInside pad b t <;> rfl

theorem add_same {n feeds : Nat} (ht : r.template = s.template) (ha : r.auxiliary = s.auxiliary)
    (hcurrent : r.current = none) (hn : r.feeds + feeds = Bytes.lineFeeds (source.take n))
    (block : Block) :
    SameOutcome (SameReading source n) (s.add block) (counted feeds (r.add block)) := by
  have hr : r = { s.found with feeds := r.feeds } := by
    rw [Reading.found, ← ht, ← ha, ← hcurrent]
  rw [hr, add_feeds, Reading.add]
  cases hadd : s.found.add block with
  | error e => exact .error
  | ok found =>
    obtain ⟨_, hc, _⟩ := add_filed hadd
    refine .ok ⟨rfl, rfl, ?_, hn⟩
    rw [hc]
    exact .none

theorem takeOutside_same (h : SameReading source offset s r) (hs : s.current = none)
    (hr : r.current = none) (hunread : Unread source offset (t.raw ++ behind)) :
    ∃ out, s.takeOutside source offset t = some out ∧
      SameOutcome (SameReading source (offset + t.raw.length)) out
        (counted t.raw.lineFeeds (r.takeOutside t)) := by
  have hfeeds := feedsBefore?_eq hunread.le
  have hcount := hunread.feeds
  rw [← h.feeds] at hfeeds hcount
  have gap : SameOutcome (SameReading source (offset + t.raw.length)) (.ok s)
      (counted t.raw.lineFeeds (.ok r)) := by
    refine .ok ⟨h.template, h.auxiliary, ?_, hcount.symm⟩
    rw [hs, hr]
    exact .none
  unfold Reading.takeOutside Graft.Reading.takeOutside
  cases t.kind with
  | startTag lowered attrs =>
    simp only [hfeeds, Option.bind_eq_bind, Option.bind_some]
    refine ⟨_, rfl, .ok ⟨h.template, h.auxiliary, .some ?_, hcount.symm⟩⟩
    exact
      { type := rfl, attrs := rfl, depth := rfl, line := rfl
        start_le := Nat.le_refl _
        feeds := hcount.symm
        content := rfl }
  | selfClosing lowered attrs =>
    exact ⟨_, rfl, add_same h.template h.auxiliary hr hcount.symm _⟩
  | endTag lowered =>
    simp only [hfeeds, Option.bind_eq_bind, Option.bind_some]
    exact ⟨_, rfl, .error⟩
  | text | comment | doctype => exact ⟨_, rfl, gap⟩

theorem takeInside_same (h : SameReading source offset s r) (hs : s.current = some b)
    (hblock : SameBlock source offset b c) (hunread : Unread source offset (t.raw ++ behind))
    (pad : Padding) :
    ∃ out, s.takeInside pad source b offset t = some out ∧
      SameOutcome (SameReading source (offset + t.raw.length)) out
        (counted t.raw.lineFeeds (r.takeInside pad c t)) := by
  have hcount : r.feeds + t.raw.lineFeeds = Bytes.lineFeeds (source.take (offset + t.raw.length)) := by
    rw [hunread.feeds, h.feeds]
  have kept {depth depth' : Nat} (hdepth : depth' = depth) :
      SameOutcome (SameReading source (offset + t.raw.length))
        (.ok { s with current := some { b with depth := depth } })
        (counted t.raw.lineFeeds
          (.ok { r with current := some { c.keep t.raw with depth := depth' } })) :=
    .ok ⟨h.template, h.auxiliary, .some (hblock.keep hunread hdepth), hcount⟩
  have same : SameOutcome (SameReading source (offset + t.raw.length)) (.ok s)
      (counted t.raw.lineFeeds (.ok { r with current := some (c.keep t.raw) })) := by
    have hkept := kept hblock.depth
    rwa [← hs] at hkept
  unfold Reading.takeInside Graft.Reading.takeInside
  cases t.kind with
  | startTag lowered attrs =>
    refine ⟨_, rfl, kept ?_⟩
    rw [hblock.type, hblock.depth]
  | endTag lowered =>
    dsimp only
    rw [hblock.type]
    by_cases hname : Fold.alike (spelledName t.raw lowered) b.type = true
    · rw [if_pos hname, if_pos hname, hblock.depth]
      cases b.depth with
      | succ depth => exact ⟨_, rfl, kept rfl⟩
      | zero =>
        simp only [hblock.content? hunread.le pad, Option.bind_eq_bind, Option.bind_some]
        have hclosed : ⟨b.type, b.attrs, (c.close pad).content⟩ = c.close pad := by
          rw [← hblock.type, ← hblock.attrs]
          rfl
        rw [hclosed]
        exact ⟨_, rfl, @add_same source s { r with current := none } _ _ h.template h.auxiliary rfl
          hcount _⟩
    · rw [if_neg hname, if_neg hname]
      exact ⟨_, rfl, same⟩
  | text | comment | doctype | selfClosing => exact ⟨_, rfl, same⟩

theorem take_same (h : SameReading source offset s r) (hunread : Unread source offset (t.raw ++ behind))
    (pad : Padding) :
    ∃ out, s.take pad source offset t = some out ∧
      SameOutcome (SameReading source (offset + t.raw.length)) out (r.take pad t) := by
  rw [take_eq_counted, Reading.take]
  rcases h.current_cases with ⟨hs, hr⟩ | ⟨b, c, hs, hr, hblock⟩
  · rw [hs, hr]
    exact takeOutside_same h hs hr hunread
  · rw [hs, hr]
    exact takeInside_same h hs hblock hunread pad

theorem finish_same (h : SameReading source offset s r) : s.finish = r.finish := by
  unfold Reading.finish Graft.Reading.finish
  rcases h.current_cases with ⟨hs, hr⟩ | ⟨b, c, hs, hr, hblock⟩
  · simp only [hs, hr, Reading.found, h.template, h.auxiliary]
  · simp only [hs, hr, hblock.type, hblock.line]

theorem sameReading_empty (source : Bytes) : SameReading source 0 .empty .empty :=
  ⟨rfl, rfl, .none, rfl⟩

end

theorem takeAll_eq_foldlM (pad : Padding) (r : Graft.Reading) (ts : List Token) :
    r.takeAll pad ts = ts.foldlM (Graft.Reading.take pad) r := by
  induction ts generalizing r with
  | nil => rfl
  | cons t ts ih =>
    rw [Graft.Reading.takeAll, List.foldlM_cons]
    cases r.take pad t with
    | error e => rfl
    | ok r => exact ih r

/-- A loop over all tokens of a source, with as many turns as it has bytes and one more. -/
def run (take : σ → Nat → Token → Option (Except ε σ)) (source : Bytes) (state : σ) :
    Option (List Bytes × Except ε σ) :=
  loop take source (source.length + 1) .markup source 0 state

/-- The loop that finds the blocks of a source. -/
def blocks (pad : Padding) (source : Bytes) : Option (List Bytes × Except SourceError Reading) :=
  run (Reading.take pad source) source .empty

/-- The loop that builds the forest of a text. No token is an error to it. -/
def forest (source : Bytes) : Option (List Bytes × Except Empty Builder) :=
  run (fun b _ t => some (.ok (b.take t))) source .empty

theorem run_exact {take : σ → Nat → Token → Option (Except ε σ)} {step : τ → Token → Except ε τ}
    {source : Bytes} {same : Nat → σ → τ → Prop}
    (htake : ∀ (offset : Nat) (s : σ) (r : τ) (t : Token) (behind : Bytes), same offset s r →
      Unread source offset (t.raw ++ behind) →
      ∃ out, take s offset t = some out ∧ SameOutcome (same (offset + t.raw.length)) out (step r t))
    {s : σ} {r : τ} (hsame : same 0 s r) :
    ∃ raws out, run take source s = some (raws, out) ∧ CutsOf .markup source raws out ∧
      SameOutcome (fun s r => ∃ n, same n s r) out ((tokens source).foldlM step r) :=
  loop_exact htake ⟨List.drop_zero, Nat.zero_le _⟩ (Nat.lt_succ_self _) hsame

theorem exists_blocks (pad : Padding) (source : Bytes) :
    ∃ raws out, blocks pad source = some (raws, out) ∧ CutsOf .markup source raws out ∧
      out.bind Reading.finish = Component.parse pad source := by
  obtain ⟨raws, out, hrun, hcuts, hsame⟩ := @run_exact _ _ _ (Reading.take pad source)
    (Graft.Reading.take pad) source (SameReading source)
    (fun offset s r t behind h hunread => take_same h hunread pad) _ _ (sameReading_empty source)
  refine ⟨raws, out, hrun, hcuts, ?_⟩
  rw [Component.parse, takeAll_eq_foldlM]
  generalize (tokens source).foldlM (Graft.Reading.take pad) .empty = result at hsame
  cases hsame with
  | error => rfl
  | ok h =>
    obtain ⟨n, h⟩ := h
    exact finish_same h

theorem exists_forest (source : Bytes) :
    ∃ b, forest source = some (cuts source, .ok b) ∧ b.finish = Markup.parse source := by
  obtain ⟨raws, out, hrun, hcuts, hsame⟩ := @run_exact _ _ _ (fun b _ t => some (.ok (b.take t)))
    (fun b t => (Except.ok (b.take t) : Except Empty Builder)) source (fun _ b c => b = c)
    (fun _ _ _ _ _ h _ => ⟨_, rfl, .ok (by rw [h])⟩) (Builder.empty) _ rfl
  have hfold : (tokens source).foldlM (fun b t => (Except.ok (b.take t) : Except Empty Builder))
      Builder.empty = .ok ((tokens source).foldl Builder.take .empty) :=
    List.foldlM_pure
  rw [hfold] at hsame
  cases hsame with
  | ok h =>
    obtain ⟨_, rfl⟩ := h
    rw [CutsOf] at hcuts
    subst hcuts
    exact ⟨_, hrun, rfl⟩

end ByOffset

/-! ## The two loops -/

theorem slices_eq_flatten (ts : List Token) : slices ts = (ts.map Token.raw).flatten :=
  List.flatMap_def

theorem cuts_flatten (source : Bytes) : (cuts source).flatten = source := by
  rw [cuts, List.flatten_append, ← slices_eq_flatten, List.flatten_singleton, slices_tokens]

theorem raw_ne_nil_of_mem_tokens {source : Bytes} {t : Token} (h : t ∈ tokens source) :
    t.raw ≠ [] := by
  obtain ⟨mode, hsteps⟩ := steps_tokensFrom .markup source
  obtain ⟨front, behind, hsplit⟩ := List.append_of_mem h
  rw [tokens] at hsplit
  rw [hsplit] at hsteps
  obtain ⟨_, _, _, hrest⟩ := hsteps.split
  exact scan_raw_ne_nil hrest.cases_cons.1

/-- Every source is cut into the slices of its tokens and what is left behind them: put together they
are the source, and none but the last is empty. The loop that builds a forest and the one that finds
blocks, with any padding, never cut outside the source, and a turn for each byte and one more is
enough for them to end. They cut exactly these slices, the second one only up to the first token that
is an error; what they give is the forest and the component. -/
theorem token_loops_exact (source : Bytes) :
    (cuts source).flatten = source ∧
    (∀ raw ∈ (cuts source).dropLast, 1 ≤ raw.length) ∧
    (∃ b, ByOffset.forest source = some (cuts source, .ok b) ∧ b.finish = Markup.parse source) ∧
    ∀ pad, ∃ raws out, ByOffset.blocks pad source = some (raws, out) ∧
      ((∃ r, out = .ok r ∧ raws = cuts source) ∨
        ∃ e, out = .error e ∧ raws <+: (cuts source).dropLast) ∧
      out.bind ByOffset.Reading.finish = Component.parse pad source := by
  have hlast : (cuts source).dropLast = (tokens source).map Token.raw := List.dropLast_concat
  refine ⟨cuts_flatten source, ?_, ByOffset.exists_forest source, ?_⟩
  · intro raw hraw
    rw [hlast] at hraw
    obtain ⟨t, ht, rfl⟩ := List.mem_map.1 hraw
    exact List.length_pos_iff.2 (raw_ne_nil_of_mem_tokens ht)
  · intro pad
    obtain ⟨raws, out, hblocks, hcuts, hfinish⟩ := ByOffset.exists_blocks pad source
    refine ⟨raws, out, hblocks, ?_, hfinish⟩
    rw [hlast]
    cases out with
    | ok r => exact .inl ⟨r, rfl, hcuts⟩
    | error e => exact .inr ⟨e, rfl, hcuts⟩

end Graft
