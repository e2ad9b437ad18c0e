import Graft.Proofs.Path.Spelled

/-!
# Graft.Proofs.Path.InPlace

Cleaning in one pass over the text. What is written is the beginning of the text itself, until a byte
differs; a step up goes back over it byte by byte. A look or a write outside gives nothing.

* `Buffer`, `start?`, `scan`: what is written, what begins at a position, and the pass.
* `Drafted`, `Room`: what is written where evaluation has come to, and that there is room for more.
* `Drafted.exists_turn`, `Drafted.exists_scan`: a turn and a run of the pass.
* `clean?_eq`, `base?_eq`: the pass always gives what evaluation by segments gives.
-/

namespace Graft.Path.InPlace

open Bytes

/-! ## The pass -/

/-- What is written, and how much of it counts. Without bytes of its own it is the text. -/
structure Buffer where
  own : Option Bytes
  width : Nat

namespace Buffer

def bytes (text : Bytes) (b : Buffer) : Bytes := b.own.getD text

def written (text : Bytes) (b : Buffer) : Bytes := (b.bytes text).take b.width

def store (own : Bytes) (width : Nat) (c : UInt8) : Option Buffer :=
  if width < own.length then some ⟨some (own.set width c), width + 1⟩ else none

/-- Writes a byte. The first one that differs from the text gives the buffer bytes of its own. -/
def write (text : Bytes) (b : Buffer) (c : UInt8) : Option Buffer :=
  match b.own with
  | none =>
    if text[b.width]? = some c then some ⟨none, b.width + 1⟩
    else store (text.take b.width ++ List.replicate (text.length - b.width) 0) b.width c
  | some own => store own b.width c

def writeIf (text : Bytes) (b : Buffer) (needed : Prop) [Decidable needed] (c : UInt8) :
    Option Buffer :=
  if needed then b.write text c else some b

/-- Goes back to a slash, but not in front of `low`. -/
def back (text : Bytes) (b : Buffer) (low : Nat) : Nat → Option Nat
  | 0 => some 0
  | w + 1 =>
    if low < w + 1 then do
      let c ← (b.bytes text)[w + 1]?
      if c = Byte.slash then some (w + 1) else back text b low w
    else some (w + 1)

end Buffer

/-- What begins at a position. -/
inductive Start where
  | slash
  | current
  | parent
  | name

/-- Whether a segment ends in front of a position. -/
def endsAt? (text : Bytes) (i : Nat) : Option Bool :=
  if i = text.length then some true else text[i]?.map (· == Byte.slash)

def start? (text : Bytes) (r : Nat) : Option Start := do
  let c ← text[r]?
  if c = Byte.slash then some .slash
  else if c = Byte.dot then do
    let alone ← endsAt? text (r + 1)
    if alone then some .current
    else do
      let d ← text[r + 1]?
      if d = Byte.dot then do
        let both ← endsAt? text (r + 2)
        some (if both then .parent else .name)
      else some .name
  else some .name

/-- Writes a segment down, up to the next slash. -/
def copy (text : Bytes) : (turns r : Nat) → Buffer → Option (Nat × Buffer)
  | 0, _, _ => none
  | turns + 1, r, b =>
    if r < text.length then do
      let c ← text[r]?
      if c = Byte.slash then some (r, b)
      else do
        let b ← b.write text c
        copy text turns (r + 1) b
    else some (r, b)

/-- Where segments begin. -/
def rootWidth (rooted : Bool) : Nat := if rooted then 1 else 0

/-- The pass from a position on. What stands in front of `low` is not taken back. -/
def scan (text : Bytes) (rooted : Bool) : (turns r low : Nat) → Buffer → Option Buffer
  | 0, _, _, _ => none
  | turns + 1, r, low, b =>
    if r < text.length then do
      match ← start? text r with
      | .slash => scan text rooted turns (r + 1) low b
      | .current => scan text rooted turns (r + 1) low b
      | .parent =>
        if low < b.width then do
          let w ← b.back text low (b.width - 1)
          scan text rooted turns (r + 2) low { b with width := w }
        else if rooted then scan text rooted turns (r + 2) low b
        else do
          let b ← b.writeIf text (0 < b.width) Byte.slash
          let b ← b.write text Byte.dot
          let b ← b.write text Byte.dot
          scan text rooted turns (r + 2) b.width b
      | .name => do
        let b ← b.writeIf text (b.width ≠ rootWidth rooted) Byte.slash
        let (r, b) ← copy text (text.length + 1) r b
        scan text rooted turns r low b
    else some b

/-- The shortest spelling of a path, in one pass. -/
def clean? (text : Bytes) : Option Bytes :=
  if text = [] then some current
  else do
    let rooted := isAbsolute text
    let b ← Buffer.writeIf text ⟨none, 0⟩ (rooted = true) Byte.slash
    let b ← scan text rooted (text.length + 1) (rootWidth rooted) (rootWidth rooted) b
    let b ← b.writeIf text (b.width = 0) Byte.dot
    if b.width ≤ (b.bytes text).length then some (b.written text) else none

/-! ## The buffer -/

namespace Buffer

variable {text : Bytes} {b : Buffer}

structure Sized (text : Bytes) (b : Buffer) : Prop where
  bytes : (b.bytes text).length = text.length
  width : b.width ≤ text.length

theorem Sized.written_length (h : b.Sized text) : (b.written text).length = b.width := by
  have hb := h.bytes
  have hw := h.width
  rw [written, List.length_take]
  omega

theorem Sized.width_of_append {b' : Buffer} {s : Bytes} (h : b.Sized text) (h' : b'.Sized text)
    (hwritten : b'.written text = b.written text ++ s) : b'.width = b.width + s.length := by
  rw [← h'.written_length, hwritten, List.length_append, h.written_length]

theorem take_succ_set {l : Bytes} {w : Nat} (h : w < l.length) (c : UInt8) :
    (l.set w c).take (w + 1) = l.take w ++ [c] := by
  rw [List.take_add_one, List.take_set_of_le (Nat.le_refl w), List.getElem?_set_self h]
  rfl

theorem store_spec {own : Bytes} {w : Nat} (hown : own.length = text.length) (hw : w < text.length)
    (c : UInt8) :
    ∃ b, store own w c = some b ∧ b.Sized text ∧ b.written text = own.take w ++ [c] := by
  rw [← hown] at hw
  refine ⟨_, if_pos hw, ⟨?_, ?_⟩, take_succ_set hw c⟩
  · simpa [bytes] using hown
  · rw [← hown]
    exact hw

/-- A byte is written behind what is written, where the text has room for it. -/
theorem Sized.exists_write (h : b.Sized text) (hw : b.width < text.length) (c : UInt8) :
    ∃ b', b.write text c = some b' ∧ b'.Sized text ∧ b'.written text = b.written text ++ [c] := by
  obtain ⟨own, w⟩ := b
  cases own with
  | some own => exact store_spec h.bytes hw c
  | none =>
    rw [write]
    dsimp only at hw ⊢
    by_cases hc : text[w]? = some c
    · rw [if_pos hc]
      refine ⟨_, rfl, ⟨rfl, hw⟩, ?_⟩
      have hnext : text.take (w + 1) = text.take w ++ [c] := by
        rw [List.take_add_one, hc]
        rfl
      exact hnext
    · rw [if_neg hc]
      have hlength : (text.take w ++ List.replicate (text.length - w) 0).length = text.length := by
        simp only [List.length_append, List.length_take, List.length_replicate]
        omega
      obtain ⟨b', hstore, hsized, hwritten⟩ := store_spec hlength hw c
      refine ⟨b', hstore, hsized, ?_⟩
      have hfront : (text.take w).length = w := List.length_take_of_le (Nat.le_of_lt hw)
      rw [hwritten, List.take_left' hfront]
      rfl

theorem getElem?_written {i : Nat} (hi : i < b.width) :
    (b.bytes text)[i]? = (b.written text)[i]? := by
  rw [written, List.getElem?_take_of_lt hi]

theorem back_eq {low lo w : Nat} (hlow : low ≤ lo) (hlo : lo ≤ w)
    (hstop : low = lo ∨ (b.bytes text)[lo]? = some Byte.slash)
    (hfree : ∀ i, lo < i → i ≤ w → ∃ c, (b.bytes text)[i]? = some c ∧ c ≠ Byte.slash) :
    b.back text low w = some lo := by
  induction w with
  | zero =>
    obtain rfl : lo = 0 := by omega
    rfl
  | succ w ih =>
    rw [back]
    by_cases hend : lo = w + 1
    · subst hend
      by_cases hlt : low < w + 1
      · have hslash := hstop.resolve_left (by omega)
        simp [hlt, hslash]
      · rw [if_neg hlt]
    · obtain ⟨c, hc, hne⟩ := hfree (w + 1) (by omega) (Nat.le_refl _)
      have hlt : low < w + 1 := by omega
      have hrest := ih (by omega) fun i hi hiw => hfree i hi (by omega)
      simp [hlt, hc, hne, hrest]

/-- A step up takes back the last segment and the slash in front of it. -/
theorem Sized.exists_back (h : b.Sized text) {front gap n : Bytes} {low : Nat}
    (hwritten : b.written text = front ++ (gap ++ n)) (hlow : low ≤ front.length)
    (hgap : gap = [] ∧ low = front.length ∨ gap = [Byte.slash]) (hn : n ≠ [])
    (hslash : Byte.slash ∉ n) :
    b.back text low (b.width - 1) = some front.length ∧
      Sized text { b with width := front.length } ∧
      written text { b with width := front.length } = front := by
  have hlength := h.written_length
  have hpos := List.length_pos_iff.2 hn
  rw [hwritten, List.length_append, List.length_append] at hlength
  have hwidth := h.width
  refine ⟨back_eq hlow (by omega) ?_ ?_, ⟨h.bytes, ?_⟩, ?_⟩
  · rcases hgap with ⟨_, hlow⟩ | hgap
    · exact .inl hlow
    · right
      rw [getElem?_written (by omega), hwritten, List.getElem?_append_right (Nat.le_refl _), hgap]
      simp
  · intro i hi hiw
    have hiwidth : i < b.width := by omega
    have hgaplength : gap.length ≤ 1 := by
      rcases hgap with ⟨hgap, _⟩ | hgap <;> simp [hgap]
    have hin : i - front.length - gap.length < n.length := by omega
    rw [getElem?_written hiwidth, hwritten, List.getElem?_append_right (by omega),
      List.getElem?_append_right (by omega), List.getElem?_eq_getElem hin]
    refine ⟨_, rfl, ?_⟩
    intro heq
    exact hslash (heq ▸ List.getElem_mem hin)
  · show front.length ≤ text.length
    omega
  · have htake : (b.written text).take front.length = (b.bytes text).take front.length := by
      rw [written, List.take_take]
      congr 1
      omega
    show (b.bytes text).take front.length = front
    rw [← htake, hwritten, List.take_left]

end Buffer

/-! ## The text -/

/-- Nothing, or a slash. -/
def Stopped (v : Bytes) : Prop := v = [] ∨ ∃ w, v = Byte.slash :: w

section

variable {text s v : Bytes} {r : Nat}

theorem getElem?_of_drop {u : Bytes} (hu : text.drop r = u) (i : Nat) : text[r + i]? = u[i]? := by
  rw [← hu, List.getElem?_drop]

theorem length_of_drop {u : Bytes} (hu : text.drop r = u) (hr : r ≤ text.length) :
    text.length = r + u.length := by
  rw [← hu, List.length_drop]
  omega

theorem endsAt?_eq (hu : text.drop r = s ++ v) (hr : r ≤ text.length) (hs : Byte.slash ∉ s)
    (hv : Stopped v) : endsAt? text r = some s.isEmpty := by
  have hlength := length_of_drop hu hr
  have hget := getElem?_of_drop hu 0
  rw [Nat.add_zero] at hget
  rw [endsAt?]
  cases s with
  | nil =>
    rcases hv with rfl | ⟨w, rfl⟩
    · have hend : r = text.length := by simpa using hlength.symm
      rw [if_pos hend]
      rfl
    · have hne : r ≠ text.length := by simp at hlength; omega
      rw [if_neg hne, hget]
      rfl
  | cons c s =>
    have hne : r ≠ text.length := by simp at hlength; omega
    have hc : c ≠ Byte.slash := fun h => hs (by simp [h])
    rw [if_neg hne, hget]
    simpa using hc

/-- What a segment begins, told from the whole segment. -/
def startOf (s : Bytes) : Start :=
  if s = [] then .slash else if s = current then .current else if s = parent then .parent else .name

theorem current_eq : current = [Byte.dot] := by decide

theorem parent_eq : parent = [Byte.dot, Byte.dot] := by decide

theorem drop_behind {c : UInt8} {u : Bytes} (hu : text.drop r = c :: u) : text.drop (r + 1) = u := by
  rw [← List.drop_drop, hu, List.drop_succ_cons, List.drop_zero]

theorem start?_eq (hu : text.drop r = s ++ v) (hr : r < text.length) (hs : Byte.slash ∉ s)
    (hv : Stopped v) : start? text r = some (startOf s) := by
  have hget := getElem?_of_drop hu
  have hfirst := hget 0
  rw [Nat.add_zero] at hfirst
  rw [start?, hfirst]
  cases s with
  | nil =>
    rcases hv with rfl | ⟨w, rfl⟩
    · have hlength := length_of_drop hu (Nat.le_of_lt hr)
      simp at hlength
      omega
    · rfl
  | cons c s =>
    simp only [List.mem_cons, not_or] at hs
    have hbehind : text.drop (r + 1) = s ++ v := drop_behind hu
    have halone := endsAt?_eq hbehind hr hs.2 hv
    have hslash : c ≠ Byte.slash := Ne.symm hs.1
    by_cases hdot : c = Byte.dot
    · subst hdot
      cases s with
      | nil => simp [halone, hslash, startOf, current_eq]
      | cons d s =>
        simp only [List.mem_cons, not_or] at hs
        have hsecond : text[r + 1]? = some d := hget 1
        have hlength := length_of_drop hu (Nat.le_of_lt hr)
        have hroom : r + 2 ≤ text.length := by
          simp only [List.cons_append, List.length_cons] at hlength
          omega
        have hboth := endsAt?_eq (drop_behind hbehind : text.drop (r + 2) = s ++ v) hroom hs.2.2 hv
        by_cases hd : d = Byte.dot
        · subst hd
          cases s <;> simp [halone, hboth, hsecond, hslash, startOf, current_eq, parent_eq]
        · simp [halone, hsecond, hslash, hd, startOf, current_eq, parent_eq]
    · simp [hslash, hdot, startOf, current_eq, parent_eq]

theorem exists_copy {b : Buffer} {turns : Nat} (hu : text.drop r = s ++ v) (hr : r ≤ text.length)
    (hs : Byte.slash ∉ s) (hv : Stopped v) (hturns : s.length < turns) (hb : b.Sized text)
    (hw : b.width ≤ r) :
    ∃ b', copy text turns r b = some (r + s.length, b') ∧ b'.Sized text ∧
      b'.written text = b.written text ++ s := by
  induction turns generalizing r b s with
  | zero => omega
  | succ turns ih =>
    have hget := getElem?_of_drop hu 0
    have hlength := length_of_drop hu hr
    rw [Nat.add_zero] at hget
    rw [copy]
    cases s with
    | nil =>
      refine ⟨b, ?_, hb, (List.append_nil _).symm⟩
      rcases hv with rfl | ⟨w, rfl⟩
      · have hend : ¬ r < text.length := by simp at hlength; omega
        rw [if_neg hend]
        rfl
      · have hlt : r < text.length := by simp at hlength; omega
        rw [if_pos hlt, hget]
        rfl
    | cons c s =>
      simp only [List.mem_cons, not_or] at hs
      simp only [List.cons_append, List.length_cons, List.length_append] at hlength hturns
      have hlt : r < text.length := by omega
      have hslash : c ≠ Byte.slash := Ne.symm hs.1
      obtain ⟨b₁, hwrite, hb₁, hwritten⟩ := hb.exists_write (by omega) c
      have hwidth : b₁.width = b.width + 1 := hb.width_of_append hb₁ hwritten
      obtain ⟨b₂, hcopy, hb₂, hwritten₂⟩ :=
        ih (drop_behind hu) hlt hs.2 (by omega) hb₁ (by omega)
      refine ⟨b₂, ?_, hb₂, by rw [hwritten₂, hwritten, List.append_assoc]; rfl⟩
      have hnext : r + 1 + s.length = r + (s.length + 1) := by omega
      rw [if_pos hlt, hget]
      simp [hslash, hwrite, hcopy, hnext]

end

/-! ## What is written -/

/-- What is written where evaluation has come to segments. -/
def draft (rooted : Bool) (X : List Bytes) : Bytes :=
  (if rooted then [Byte.slash] else []) ++ joinWith [Byte.slash] X

/-- What stands in front of a segment behind others. -/
def gapBehind (X : List Bytes) : Bytes := if X = [] then [] else [Byte.slash]

section

variable {rooted : Bool} {X Y : List Bytes}

theorem draft_nil (rooted : Bool) : (draft rooted []).length = rootWidth rooted := by
  cases rooted <;> rfl

theorem draft_concat (rooted : Bool) (X : List Bytes) (n : Bytes) :
    draft rooted (X ++ [n]) = draft rooted X ++ (gapBehind X ++ n) := by
  by_cases hX : X = []
  · subst hX
    simp [draft, gapBehind, joinWith]
  · rw [draft, draft, gapBehind, if_neg hX, joinWith_append _ hX (by simp), joinWith_singleton]
    simp

theorem draft_length_le (rooted : Bool) (X Y : List Bytes) :
    (draft rooted X).length ≤ (draft rooted (X ++ Y)).length := by
  induction Y generalizing X with
  | nil => simp
  | cons n Y ih =>
    have hnext := ih (X ++ [n])
    rw [← List.append_cons, draft_concat, List.length_append] at hnext
    omega

theorem rootWidth_le (rooted : Bool) (X : List Bytes) : rootWidth rooted ≤ (draft rooted X).length := by
  have h := draft_length_le rooted [] X
  rwa [draft_nil] at h

theorem draft_length_eq_iff (hX : ∀ s ∈ X, s ≠ []) :
    (draft rooted X).length = rootWidth rooted ↔ X = [] := by
  constructor
  · intro h
    rcases List.eq_nil_or_concat X with hnil | ⟨X', n, rfl⟩
    · exact hnil
    · have hle := rootWidth_le rooted X'
      have hn := List.length_pos_iff.2 (hX n (by simp))
      rw [List.concat_eq_append, draft_concat, List.length_append, List.length_append] at h
      omega
  · rintro rfl
    exact draft_nil rooted

end

/-- What is written when evaluation stands at `k` steps up and some names behind them. The steps up
are not taken back. -/
structure Drafted (text : Bytes) (rooted : Bool) (low : Nat) (b : Buffer) (k : Nat)
    (names : List Bytes) : Prop where
  sized : b.Sized text
  written : b.written text = draft rooted (List.replicate k parent ++ names)
  root : rooted = true → k = 0
  names : ∀ n ∈ names, IsName n
  low : low = (draft rooted (List.replicate k parent)).length

/-- There is room for what the rest of the text adds, a slash included. -/
structure Room (text : Bytes) (rooted : Bool) (r : Nat) (b : Buffer) : Prop where
  le : r ≤ text.length
  width : b.width ≤ r
  spare : Stopped (text.drop r) ∨ b.width = rootWidth rooted ∨ b.width < r

section

variable {text s v : Bytes} {rooted : Bool} {low r k : Nat} {b : Buffer} {names : List Bytes}

theorem Drafted.normal (h : Drafted text rooted low b k names) :
    Normal rooted (List.replicate k parent ++ names) := ⟨k, names, rfl, h.root, h.names⟩

theorem Drafted.width (h : Drafted text rooted low b k names) :
    b.width = (draft rooted (List.replicate k parent ++ names)).length := by
  rw [← h.sized.written_length, h.written]

theorem Drafted.width_eq_iff (h : Drafted text rooted low b k names) :
    b.width = rootWidth rooted ↔ List.replicate k parent ++ names = [] := by
  rw [h.width]
  exact draft_length_eq_iff h.normal.ne_nil

theorem Drafted.exists_gap (h : Drafted text rooted low b k names) (hroom : Room text rooted r b)
    (hs : ¬ Stopped (text.drop r)) :
    ∃ b', b.writeIf text (b.width ≠ rootWidth rooted) Byte.slash = some b' ∧
      b'.Sized text ∧ b'.width ≤ r ∧
      b'.written text = draft rooted (List.replicate k parent ++ names) ++
        gapBehind (List.replicate k parent ++ names) := by
  have hle := hroom.le
  by_cases hroot : b.width = rootWidth rooted
  · rw [Buffer.writeIf, if_neg fun hne => hne hroot]
    refine ⟨b, rfl, h.sized, hroom.width, ?_⟩
    rw [gapBehind, if_pos (h.width_eq_iff.1 hroot), List.append_nil, h.written]
  · have hspare := (hroom.spare.resolve_left hs).resolve_left hroot
    obtain ⟨b', hwrite, hsized, hwritten⟩ := h.sized.exists_write (by omega) Byte.slash
    rw [Buffer.writeIf, if_pos hroot]
    refine ⟨b', hwrite, hsized, ?_, ?_⟩
    · rw [h.sized.width_of_append hsized hwritten]
      exact hspare
    · rw [hwritten, h.written, gapBehind, if_neg (mt h.width_eq_iff.2 hroot)]

theorem foldl_split_append (hs : Byte.slash ∉ s) (hv : Stopped v) (done : List Bytes) :
    (split Byte.slash (s ++ v)).foldl (advance rooted) done =
      (split Byte.slash v).foldl (advance rooted) (advance rooted done s) := by
  have hidle : advance rooted (advance rooted done s) [] = advance rooted done s :=
    advance_idle (.inl rfl)
  rcases hv with rfl | ⟨w, rfl⟩
  · rw [List.append_nil, split_of_not_mem hs, split_of_not_mem (by simp), List.foldl_cons,
      List.foldl_cons, hidle]
  · rw [split_append_sep, split_of_not_mem hs, split_cons_sep, List.singleton_append,
      List.foldl_cons, List.foldl_cons, hidle]

theorem drop_length (hu : text.drop r = s ++ v) : text.drop (r + s.length) = v := by
  rw [← List.drop_drop, hu, List.drop_left]

/-- Behind a segment there is room, if not more was written than read. -/
theorem room_behind (hu : text.drop r = s ++ v) (hr : r ≤ text.length) (hv : Stopped v)
    (hw : b.width ≤ r + s.length) : Room text rooted (r + s.length) b := by
  have hlength := length_of_drop hu hr
  rw [List.length_append] at hlength
  refine ⟨by omega, hw, .inl ?_⟩
  rw [drop_length hu]
  exact hv

theorem advance_back {n : Bytes} (hn : IsName n) (done : List Bytes) :
    advance rooted (n :: done) parent = done := by
  have hplain : ¬ (parent = [] ∨ parent = current) := by decide
  simp [advance, hplain, hn.ne_parent]

theorem Drafted.exists_back {n : Bytes} (h : Drafted text rooted low b k (names ++ [n])) :
    low < b.width ∧ ∃ w, b.back text low (b.width - 1) = some w ∧ w ≤ b.width ∧
      Drafted text rooted low { b with width := w } k names := by
  have hn : IsName n := h.names n (by simp)
  have hpos := List.length_pos_iff.2 hn.ne_nil
  have hwritten := h.written
  rw [← List.append_assoc, draft_concat] at hwritten
  have hlow : low ≤ (draft rooted (List.replicate k parent ++ names)).length := by
    rw [h.low]
    exact draft_length_le rooted _ names
  have hwidth := h.sized.written_length
  rw [hwritten, List.length_append, List.length_append] at hwidth
  have hgap : gapBehind (List.replicate k parent ++ names) = [] ∧
      low = (draft rooted (List.replicate k parent ++ names)).length ∨
        gapBehind (List.replicate k parent ++ names) = [Byte.slash] := by
    by_cases hX : List.replicate k parent ++ names = []
    · obtain ⟨hk, rfl⟩ := List.append_eq_nil_iff.1 hX
      refine .inl ⟨if_pos hX, ?_⟩
      rw [h.low, List.append_nil]
    · exact .inr (if_neg hX)
  obtain ⟨hback, hsized, hrest⟩ := h.sized.exists_back hwritten hlow hgap hn.ne_nil hn.no_slash
  refine ⟨by omega, _, hback, by omega, hsized, hrest, h.root, ?_, h.low⟩
  intro m hm
  exact h.names m (List.mem_append_left _ hm)

/-- A step up that nothing can be taken back for is written down, but not at the root. -/
theorem Drafted.exists_parent (h : Drafted text false low b k []) (hroom : Room text false r b)
    (hu : text.drop r = parent ++ v) :
    ∃ b₁ b₂ b₃, b.writeIf text (0 < b.width) Byte.slash = some b₁ ∧
      b₁.write text Byte.dot = some b₂ ∧ b₂.write text Byte.dot = some b₃ ∧ b₃.width ≤ r + 2 ∧
      Drafted text false b₃.width b₃ (k + 1) [] := by
  have hlength := length_of_drop hu hroom.le
  have htwo : parent.length = 2 := by decide
  rw [List.length_append, htwo] at hlength
  have hstopped : ¬ Stopped (text.drop r) := by
    rw [hu, parent_eq]
    rintro (h | ⟨w, h⟩) <;> cases h
  obtain ⟨b₁, hgap, hb₁, hw₁, hwritten₁⟩ := h.exists_gap hroom hstopped
  have hif : b.writeIf text (0 < b.width) Byte.slash = some b₁ := by
    rw [← hgap]
    simp only [Buffer.writeIf, rootWidth, Nat.pos_iff_ne_zero]
    rfl
  obtain ⟨b₂, hwrite₂, hb₂, hwritten₂⟩ := hb₁.exists_write (by omega) Byte.dot
  have hw₂ : b₂.width = b₁.width + 1 := hb₁.width_of_append hb₂ hwritten₂
  obtain ⟨b₃, hwrite₃, hb₃, hwritten₃⟩ := hb₂.exists_write (by omega) Byte.dot
  have hw₃ : b₃.width = b₂.width + 1 := hb₂.width_of_append hb₃ hwritten₃
  have hall : b₃.written text = draft false (List.replicate (k + 1) parent) := by
    rw [List.replicate_succ', draft_concat, hwritten₃, hwritten₂, hwritten₁, parent_eq]
    simp
  refine ⟨b₁, b₂, b₃, hif, hwrite₂, hwrite₃, by omega, hb₃, ?_, by simp, by simp, ?_⟩
  · rw [hall, List.append_nil]
  · rw [← hb₃.written_length, hall]

theorem Drafted.exists_name (h : Drafted text rooted low b k names) (hroom : Room text rooted r b)
    (hu : text.drop r = s ++ v) (hs : IsName s) (hv : Stopped v) :
    ∃ b₁ b₂, b.writeIf text (b.width ≠ rootWidth rooted) Byte.slash = some b₁ ∧
      copy text (text.length + 1) r b₁ = some (r + s.length, b₂) ∧ b₂.width ≤ r + s.length ∧
      Drafted text rooted low b₂ k (names ++ [s]) := by
  have hlength := length_of_drop hu hroom.le
  rw [List.length_append] at hlength
  have hstopped : ¬ Stopped (text.drop r) := by
    rw [hu]
    obtain ⟨c, s', rfl⟩ := List.exists_cons_of_ne_nil hs.ne_nil
    rintro (h | ⟨w, h⟩)
    · cases h
    · have hc : c = Byte.slash := (List.cons.inj h).1
      exact hs.no_slash (by simp [hc])
  obtain ⟨b₁, hgap, hb₁, hw₁, hwritten₁⟩ := h.exists_gap hroom hstopped
  have hturns : s.length < text.length + 1 := by omega
  obtain ⟨b₂, hcopy, hb₂, hwritten₂⟩ := exists_copy hu hroom.le hs.no_slash hv hturns hb₁ hw₁
  refine ⟨b₁, b₂, hgap, hcopy, ?_, hb₂, ?_, h.root, ?_, h.low⟩
  · rw [hb₁.width_of_append hb₂ hwritten₂]
    omega
  · rw [← List.append_assoc, draft_concat, hwritten₂, hwritten₁, List.append_assoc]
  · intro n hn
    rcases List.mem_append.1 hn with hn | hn
    · exact h.names n hn
    · rwa [List.mem_singleton.1 hn]

theorem exists_segment (u : Bytes) : ∃ s v, u = s ++ v ∧ Byte.slash ∉ s ∧ Stopped v := by
  by_cases hmem : Byte.slash ∈ u
  · obtain ⟨s, w, hu, hs⟩ := List.eq_append_cons_of_mem hmem
    exact ⟨s, Byte.slash :: w, hu, hs, .inr ⟨w, rfl⟩⟩
  · exact ⟨u, [], (List.append_nil u).symm, hmem, .inl rfl⟩

/-- A turn of the pass goes forward, and leaves the rest of the evaluation to the turns behind it. -/
structure Turn (text : Bytes) (rooted : Bool) (r low : Nat) (b : Buffer) (X : List Bytes)
    (r' low' : Nat) (b' : Buffer) (X' : List Bytes) : Prop where
  forward : r < r'
  scanned : ∀ turns, scan text rooted (turns + 1) r low b = scan text rooted turns r' low' b'
  evaluated : (split Byte.slash (text.drop r)).foldl (advance rooted) X.reverse =
    (split Byte.slash (text.drop r')).foldl (advance rooted) X'.reverse

theorem turn_of_segment {r' low' : Nat} {b' : Buffer} {X X' : List Bytes} (hu : text.drop r = s ++ v)
    (hs : Byte.slash ∉ s) (hne : s ≠ []) (hv : Stopped v) (hr' : r' = r + s.length)
    (hadvance : advance rooted X.reverse s = X'.reverse)
    (hscan : ∀ turns, scan text rooted (turns + 1) r low b = scan text rooted turns r' low' b') :
    Turn text rooted r low b X r' low' b' X' := by
  have hpos := List.length_pos_iff.2 hne
  refine ⟨by omega, hscan, ?_⟩
  rw [hu, foldl_split_append hs hv, hadvance, hr', drop_length hu]

theorem scan_eq (hu : text.drop r = s ++ v) (hr : r < text.length) (hs : Byte.slash ∉ s)
    (hv : Stopped v) (turns : Nat) :
    scan text rooted (turns + 1) r low b =
      match startOf s with
      | .slash => scan text rooted turns (r + 1) low b
      | .current => scan text rooted turns (r + 1) low b
      | .parent =>
        if low < b.width then
          (b.back text low (b.width - 1)).bind fun w =>
            scan text rooted turns (r + 2) low { b with width := w }
        else if rooted then scan text rooted turns (r + 2) low b
        else
          (b.writeIf text (0 < b.width) Byte.slash).bind fun b =>
            (b.write text Byte.dot).bind fun b =>
              (b.write text Byte.dot).bind fun b => scan text rooted turns (r + 2) b.width b
      | .name =>
        (b.writeIf text (b.width ≠ rootWidth rooted) Byte.slash).bind fun b =>
          (copy text (text.length + 1) r b).bind fun (r, b) => scan text rooted turns r low b := by
  rw [scan, if_pos hr, start?_eq hu hr hs hv]
  rfl

theorem turn_slash {w : Bytes} (hu : text.drop r = Byte.slash :: w) (hr : r < text.length)
    (X : List Bytes) : Turn text rooted r low b X (r + 1) low b X := by
  have hsegment : text.drop r = [] ++ Byte.slash :: w := hu
  refine ⟨by omega, fun turns => scan_eq hsegment hr (by simp) (.inr ⟨w, rfl⟩) turns, ?_⟩
  rw [hu, drop_behind hu, split_cons_sep, List.foldl_cons, advance_idle (.inl rfl)]

theorem turn_current (hu : text.drop r = current ++ v) (hr : r < text.length) (hv : Stopped v)
    (X : List Bytes) : Turn text rooted r low b X (r + 1) low b X :=
  turn_of_segment hu (by decide) (by decide) hv rfl (advance_idle (.inr rfl))
    (scan_eq hu hr (by decide) hv)

theorem Drafted.exists_turn_parent (h : Drafted text rooted low b k names)
    (hroom : Room text rooted r b) (hu : text.drop r = parent ++ v) (hr : r < text.length)
    (hv : Stopped v) :
    ∃ low' b' k' names', b'.width ≤ r + 2 ∧ Drafted text rooted low' b' k' names' ∧
      Turn text rooted r low b (List.replicate k parent ++ names) (r + 2) low' b'
        (List.replicate k' parent ++ names') := by
  have hwidth := hroom.width
  have hscan := @scan_eq text parent v rooted low r b hu hr (by decide) hv
  rcases List.eq_nil_or_concat names with rfl | ⟨names, n, rfl⟩
  · have hlow : ¬ low < b.width := by
      rw [h.low, h.width, List.append_nil]
      omega
    cases rooted with
    | true =>
      obtain rfl := h.root rfl
      refine ⟨low, b, 0, [], by omega, h,
        turn_of_segment hu (by decide) (by decide) hv rfl rfl fun turns => ?_⟩
      rw [hscan]
      exact if_neg hlow
    | false =>
      obtain ⟨b₁, b₂, b₃, hgap, hwrite₂, hwrite₃, hwidth₃, hdraft⟩ := h.exists_parent hroom hu
      have hup : advance false (List.replicate k parent ++ []).reverse parent =
          (List.replicate (k + 1) parent ++ []).reverse := by
        have hmore := foldl_advance_parents 1 k
        rw [Nat.add_comm 1 k] at hmore
        simpa using hmore
      refine ⟨b₃.width, b₃, k + 1, [], hwidth₃, hdraft,
        turn_of_segment hu (by decide) (by decide) hv rfl hup fun turns => ?_⟩
      rw [hscan]
      show (if low < b.width then _ else _) = _
      rw [if_neg hlow]
      simp [hgap, hwrite₂, hwrite₃]
  · rw [List.concat_eq_append] at h ⊢
    obtain ⟨hlow, w, hback, hw, hdraft⟩ := h.exists_back
    have hn : IsName n := h.names n (by simp)
    have hdown : advance rooted (List.replicate k parent ++ (names ++ [n])).reverse parent =
        (List.replicate k parent ++ names).reverse := by
      rw [← List.append_assoc, List.reverse_append]
      exact advance_back hn _
    refine ⟨low, _, k, names, ?_, hdraft,
      turn_of_segment hu (by decide) (by decide) hv rfl hdown fun turns => ?_⟩
    · show w ≤ r + 2
      omega
    · rw [hscan]
      show (if low < b.width then _ else _) = _
      rw [if_pos hlow, hback]
      rfl

theorem Drafted.exists_turn_name (h : Drafted text rooted low b k names)
    (hroom : Room text rooted r b) (hu : text.drop r = s ++ v) (hr : r < text.length) (hs : IsName s)
    (hv : Stopped v) :
    ∃ b', b'.width ≤ r + s.length ∧ Drafted text rooted low b' k (names ++ [s]) ∧
      Turn text rooted r low b (List.replicate k parent ++ names) (r + s.length) low b'
        (List.replicate k parent ++ (names ++ [s])) := by
  obtain ⟨b₁, b₂, hgap, hcopy, hwidth, hdraft⟩ := h.exists_name hroom hu hs hv
  have hname : advance rooted (List.replicate k parent ++ names).reverse s =
      (List.replicate k parent ++ (names ++ [s])).reverse := by
    rw [advance_name hs]
    simp
  refine ⟨b₂, hwidth, hdraft, turn_of_segment hu hs.no_slash hs.ne_nil hv rfl hname fun turns => ?_⟩
  have hstart : startOf s = .name := by
    simp [startOf, hs.ne_nil, hs.2.1, hs.ne_parent]
  rw [scan_eq hu hr hs.no_slash hv, hstart]
  simp [hgap, hcopy]

theorem Drafted.exists_turn (h : Drafted text rooted low b k names) (hroom : Room text rooted r b)
    (hr : r < text.length) :
    ∃ r' low' b' k' names', Drafted text rooted low' b' k' names' ∧ Room text rooted r' b' ∧
      Turn text rooted r low b (List.replicate k parent ++ names) r' low' b'
        (List.replicate k' parent ++ names') := by
  obtain ⟨s, v, hu, hs, hv⟩ := exists_segment (text.drop r)
  have hwidth := hroom.width
  have hle := hroom.le
  by_cases hnil : s = []
  · have hne : v ≠ [] := by
      rintro rfl
      have hlength := length_of_drop hu hle
      simp [hnil] at hlength
      omega
    obtain ⟨w, rfl⟩ := hv.resolve_left hne
    rw [hnil, List.nil_append] at hu
    exact ⟨r + 1, low, b, k, names, h, ⟨hr, by omega, .inr (.inr (by omega))⟩, turn_slash hu hr _⟩
  by_cases hcurrent : s = current
  · subst hcurrent
    have hroom' : Room text rooted (r + 1) b := room_behind hu hle hv (by omega)
    exact ⟨r + 1, low, b, k, names, h, hroom', turn_current hu hr hv _⟩
  by_cases hparent : s = parent
  · subst hparent
    obtain ⟨low', b', k', names', hw, hdraft, hturn⟩ := h.exists_turn_parent hroom hu hr hv
    have hroom' : Room text rooted (r + 2) b' := room_behind hu hle hv hw
    exact ⟨r + 2, low', b', k', names', hdraft, hroom', hturn⟩
  · obtain ⟨b', hw, hdraft, hturn⟩ :=
      h.exists_turn_name hroom hu hr ⟨hnil, hcurrent, hparent, hs⟩ hv
    exact ⟨_, low, b', k, _, hdraft, room_behind hu hle hv hw, hturn⟩

theorem Drafted.exists_scan {turns : Nat} (h : Drafted text rooted low b k names)
    (hroom : Room text rooted r b) (hturns : text.length < r + turns) :
    ∃ b', scan text rooted turns r low b = some b' ∧ b'.Sized text ∧
      b'.written text = draft rooted ((split Byte.slash (text.drop r)).foldl (advance rooted)
        (List.replicate k parent ++ names).reverse).reverse := by
  induction turns generalizing r low b k names with
  | zero =>
    have hle := hroom.le
    omega
  | succ turns ih =>
    by_cases hr : r < text.length
    · obtain ⟨r', low', b', k', names', hdraft, hroom', hturn⟩ := h.exists_turn hroom hr
      have hforward := hturn.forward
      rw [hturn.scanned, hturn.evaluated]
      exact ih hdraft hroom' (by omega)
    · rw [scan, if_neg hr]
      refine ⟨b, rfl, h.sized, ?_⟩
      rw [List.drop_eq_nil_of_le (by omega), h.written]
      simp [split, advance]

end

/-! ## Clean paths -/

theorem spell_eq_draft {rooted : Bool} {X : List Bytes} (hX : Normal rooted X) :
    spell rooted X = if (draft rooted X).length = 0 then current else draft rooted X := by
  cases rooted with
  | true => rfl
  | false =>
    have hempty : (draft false X).length = 0 ↔ X = [] := draft_length_eq_iff hX.ne_nil
    by_cases hnil : X = []
    · rw [if_pos (hempty.2 hnil), hnil]
      rfl
    · rw [if_neg (mt hempty.1 hnil), spell_false hnil]
      rfl

theorem exists_begin {text : Bytes} (hne : text ≠ []) :
    ∃ b, Buffer.writeIf text ⟨none, 0⟩ (isAbsolute text = true) Byte.slash = some b ∧
      Drafted text (isAbsolute text) (rootWidth (isAbsolute text)) b 0 [] ∧
      Room text (isAbsolute text) (rootWidth (isAbsolute text)) b := by
  have hpos := List.length_pos_iff.2 hne
  have hsized : Buffer.Sized text ⟨none, 0⟩ := ⟨rfl, Nat.zero_le _⟩
  cases habs : isAbsolute text with
  | false =>
    refine ⟨⟨none, 0⟩, by simp [Buffer.writeIf], ⟨hsized, rfl, by simp, by simp, rfl⟩, ?_⟩
    exact ⟨Nat.zero_le _, Nat.le_refl _, .inr (.inl rfl)⟩
  | true =>
    obtain ⟨b, hwrite, hb, hwritten⟩ := hsized.exists_write hpos Byte.slash
    have hwidth : b.width = 1 := hsized.width_of_append hb hwritten
    refine ⟨b, by simp [Buffer.writeIf, hwrite], ⟨hb, hwritten, fun _ => rfl, by simp, rfl⟩, ?_⟩
    exact ⟨hpos, by rw [hwidth]; exact Nat.le_refl _, .inr (.inl hwidth)⟩

theorem foldl_split_drop_root (text : Bytes) :
    ((split Byte.slash (text.drop (rootWidth (isAbsolute text)))).foldl
      (advance (isAbsolute text)) []).reverse = segments text := by
  rw [segments, evaluate]
  cases habs : isAbsolute text with
  | false => rfl
  | true =>
    cases text with
    | nil => cases habs
    | cons c t =>
      obtain rfl : c = Byte.slash := by simpa [isAbsolute] using habs
      rw [split_cons_sep, List.foldl_cons, advance_idle (.inl rfl)]
      rfl

theorem clean?_eq (text : Bytes) : clean? text = some (clean text) := by
  by_cases hnil : text = []
  · subst hnil
    decide
  · obtain ⟨b, hbegin, hdraft, hroom⟩ := exists_begin hnil
    obtain ⟨b', hscan, hsized, hwritten⟩ := hdraft.exists_scan hroom
      (show text.length < rootWidth (isAbsolute text) + (text.length + 1) by omega)
    have hsegments : b'.written text = draft (isAbsolute text) (segments text) := by
      rw [hwritten, ← foldl_split_drop_root]
      rfl
    have hwidth : b'.width = (draft (isAbsolute text) (segments text)).length := by
      rw [← hsized.written_length, hsegments]
    have hlast : ∃ b₂, b'.writeIf text (b'.width = 0) Byte.dot = some b₂ ∧ b₂.Sized text ∧
        b₂.written text = clean text := by
      rw [clean, spell_eq_draft (normal_segments text), ← hwidth, ← hsegments, Buffer.writeIf]
      by_cases hzero : b'.width = 0
      · have hpos := List.length_pos_iff.2 hnil
        obtain ⟨b₂, hwrite, hb₂, hdot⟩ := hsized.exists_write (by omega) Byte.dot
        refine ⟨b₂, by rw [if_pos hzero, hwrite], hb₂, ?_⟩
        rw [if_pos hzero, hdot, Buffer.written, hzero, List.take_zero, current_eq]
        rfl
      · exact ⟨b', if_neg hzero, hsized, (if_neg hzero).symm⟩
    obtain ⟨b₂, hwrite, hb₂, hclean⟩ := hlast
    have hfits : b₂.width ≤ (b₂.bytes text).length := by
      rw [hb₂.bytes]
      exact hb₂.width
    simp only [clean?, if_neg hnil, hbegin, hscan, hwrite, Option.bind_eq_bind, Option.bind_some,
      if_pos hfits, hclean]

def join? (a b : Bytes) : Option Bytes :=
  if a.isEmpty then (if b.isEmpty then some [] else clean? b) else clean? (a ++ Byte.slash :: b)

/-- Where a base is found, each path cleaned in one pass. -/
def base? (origin target : Bytes) : Option Bytes :=
  if isAbsolute target then clean? target
  else do
    let directory ← clean? (upToSlash origin)
    join? directory target

theorem base?_eq (origin target : Bytes) : base? origin target = some (base origin target) := by
  have hjoin (a b : Bytes) : join? a b = some (join a b) := by
    simp only [join?, join, clean?_eq]
    split
    · split <;> rfl
    · rfl
  rw [base?, base]
  split
  · exact clean?_eq target
  · rw [clean?_eq]
    exact hjoin _ target

end Graft.Path.InPlace
