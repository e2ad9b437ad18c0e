import Graft.Text.Utf8

/-!
# Graft.Glob

Patterns for slash-separated paths: `?` and `*` within a segment, `**` across segments, `[…]`
classes, `{…,…}` choices and a backslash that makes the next byte literal.

* `Glob.isValid`: whether a text is a pattern.
* `Glob.Cursor`, `Glob.step`: how far a name has been matched, and one step further. Only the last
  star and the last `**` are ever taken back.
* `Glob.accepts`: whether a pattern matches a name.
-/

namespace Graft.Glob

/-- The inside of a class up to its closing bracket, and what follows it; a backslash hides the
next byte. -/
def afterClass? : (escaped : Bool) → Bytes → Option Bytes
  | _, [] => none
  | true, _ :: rest => afterClass? false rest
  | false, c :: rest =>
    if c = Byte.backslash then afterClass? true rest
    else if c = Byte.closeBracket then some rest
    else afterClass? false rest

/-- What follows the opening bracket of a class once its negation mark is passed over. -/
def classBody (s : Bytes) : Bytes :=
  match s with
  | c :: rest => if c = Byte.bang ∨ c = Byte.caret then rest else s
  | [] => []

/-- Whether a class whose opening bracket was just read is closed and not empty; gives the number
of bytes it takes. -/
def classLength? (s : Bytes) : Option Nat :=
  let body := classBody s
  if body = [] ∨ body.head? = some Byte.closeBracket then none
  else (afterClass? false body).map fun rest => s.length - rest.length

/-- Whether the rest of a pattern is well formed inside `depth` open choices. The first `skip`
bytes have been looked at already. -/
def isValidFrom : (skip depth : Nat) → Bytes → Bool
  | _, depth, [] => depth == 0
  | skip + 1, depth, _ :: rest => isValidFrom skip depth rest
  | 0, depth, c :: rest =>
    if c = Byte.backslash then !rest.isEmpty && isValidFrom 1 depth rest
    else if c = Byte.openBracket then
      match classLength? rest with
      | none => false
      | some n => isValidFrom n depth rest
    else if c = Byte.openBrace then isValidFrom 0 (depth + 1) rest
    else if c = Byte.closeBrace then
      match depth with
      | 0 => false
      | depth + 1 => isValidFrom 0 depth rest
    else isValidFrom 0 depth rest

def isValid (pattern : Bytes) : Bool := isValidFrom 0 0 pattern

/-- The first character of a text with its length; U+FFFD for an ill-formed byte. -/
def firstChar (s : Bytes) : Char × Nat :=
  match s, Utf8.head? s with
  | [], _ => (Utf8.replacement, 0)
  | _, some c => c
  | _, none => (Utf8.replacement, 1)

/-- What is inside the choice just opened, and what follows its closing brace. -/
def splitChoice? : (depth : Nat) → (escaped : Bool) → Bytes → Option (Bytes × Bytes)
  | _, _, [] => none
  | depth, true, c :: rest => (splitChoice? depth false rest).map fun (a, b) => (c :: a, b)
  | depth, false, c :: rest =>
    if c = Byte.backslash then (splitChoice? depth true rest).map fun (a, b) => (c :: a, b)
    else if c = Byte.openBrace then
      (splitChoice? (depth + 1) false rest).map fun (a, b) => (c :: a, b)
    else if c = Byte.closeBrace then
      match depth with
      | 0 => some ([], rest)
      | depth + 1 => (splitChoice? depth false rest).map fun (a, b) => (c :: a, b)
    else (splitChoice? depth false rest).map fun (a, b) => (c :: a, b)

/-- The alternatives of a choice: its commas outside inner choices separate them. -/
def alternatives : (depth : Int) → (escaped : Bool) → Bytes → List Bytes
  | _, _, [] => [[]]
  | depth, true, c :: rest => extend c (alternatives depth false rest)
  | depth, false, c :: rest =>
    if c = Byte.backslash then extend c (alternatives depth true rest)
    else if c = Byte.openBrace then extend c (alternatives (depth + 1) false rest)
    else if c = Byte.closeBrace then extend c (alternatives (depth - 1) false rest)
    else if c = Byte.comma ∧ depth = 0 then [] :: alternatives 0 false rest
    else extend c (alternatives depth false rest)
where
  extend (c : UInt8) : List Bytes → List Bytes
    | [] => [[c]]
    | first :: more => (c :: first) :: more

/-- What comes of matching. A pattern found malformed ends everything. -/
inductive Verdict where
  | matched
  | unmatched
  | malformed
deriving DecidableEq, Repr

def Verdict.firstOf : List Verdict → Verdict
  | [] => .unmatched
  | .unmatched :: rest => firstOf rest
  | v :: _ => v

/-- What a class says about a character: where the pattern goes on. -/
inductive ClassOutcome where
  | accepted (rest : Bytes)
  | refused (rest : Bytes)
  | malformed

/-- Looks for a character among the members of a class. `low` is a member that could start a
range. Gives whether it is there and where reading stopped. -/
def searchClass (c : Char) : (fuel : Nat) → (low : Option Char) → Bytes → Bool × Bytes
  | 0, _, s => (false, s)
  | fuel + 1, low, s =>
    if s = [] ∨ s.head? = some Byte.closeBracket then (false, s)
    else
      let (p, n) := firstChar s
      let rest := s.drop n
      match low with
      | some lo =>
        if p = '-' ∧ rest ≠ [] ∧ rest.head? ≠ some Byte.closeBracket then
          let bound := if rest.head? = some Byte.backslash then rest.drop 1 else rest
          let (hi, m) := firstChar bound
          if lo ≤ c ∧ c ≤ hi then (true, bound.drop m)
          else searchClass c fuel none (bound.drop m)
        else single fuel p rest
      | none => single fuel p rest
where
  single (fuel : Nat) (p : Char) (rest : Bytes) : Bool × Bytes :=
    let (q, behind) :=
      if p = '\\' then
        let (q, m) := firstChar rest
        (q, rest.drop m)
      else (p, rest)
    if q = c then (true, behind)
    else searchClass c fuel (if q.toNat < 0x10FFFF then some q else none) behind

def testClass (c : Char) (s : Bytes) : ClassOutcome :=
  let negated := s.head? = some Byte.bang ∨ s.head? = some Byte.caret
  let body := classBody s
  if body = [] ∨ body.head? = some Byte.closeBracket then .malformed
  else
    let (found, stop) := searchClass c body.length none body
    if found = decide negated then if stop = [] then .malformed else .refused stop
    else
      match afterClass? false stop with
      | none => .malformed
      | some rest => .accepted rest

structure Cursor where
  pattern : Bytes
  rest : Bytes
  name : Bytes
  atStart : Bool
  star : Option (Nat × Bytes)
  doubleStar : Option (Nat × Bytes)

/-- One step of matching. -/
inductive Move where
  | done (v : Verdict)
  | goOn (c : Cursor)
  | choose (options : List Cursor)

def Cursor.position (c : Cursor) : Nat := c.pattern.length - c.rest.length

def nextSegment? (name : Bytes) : Option Bytes :=
  match name.dropWhile (· != Byte.slash) with
  | [] => none
  | _ :: rest => some rest

/-- Takes back the last `**`, which then takes one more segment; a pattern that has failed is still
checked from where it stopped. -/
def retryDoubleStar (c : Cursor) (stop : Bytes) : Move :=
  let failed : Move := .done (if stop.isEmpty || isValid stop then .unmatched else .malformed)
  match c.doubleStar with
  | none => failed
  | some (position, name) =>
    match nextSegment? name with
    | none => failed
    | some name =>
      .goOn { c with
        rest := c.pattern.drop position
        name := name
        atStart := true
        star := none
        doubleStar := some (position, name) }

/-- Takes back the last star, which then takes one more character of its segment. -/
def retry (c : Cursor) (stop : Bytes) : Move :=
  match c.star with
  | none => retryDoubleStar c stop
  | some (position, name) =>
    let (k, n) := firstChar name
    if k = '/' then retryDoubleStar c stop
    else
      .goOn { c with
        rest := c.pattern.drop position
        name := name.drop n
        atStart := false
        star := some (position, name.drop n) }

/-- A literal character of the pattern; `stop` is where checking goes on if it fails. -/
def literal (c : Cursor) (s stop : Bytes) : Move :=
  let (p, n) := firstChar s
  let (k, m) := firstChar c.name
  if p = k then
    .goOn { c with rest := s.drop n, name := c.name.drop m, atStart := p == '/' }
  else retry c stop

def singleStar (c : Cursor) (rest : Bytes) : Move :=
  .goOn { c with
    rest := rest
    atStart := false
    star := some (c.pattern.length - rest.length, c.name) }

def choices (c : Cursor) (inside behind : Bytes) : List Cursor :=
  (alternatives 0 false inside).map fun option =>
    { c with
      pattern := c.pattern.take c.position ++ option ++ behind
      rest := option ++ behind
      atStart := true }

def step (c : Cursor) : Move :=
  match c.rest with
  | [] => retry c []
  | p :: rest =>
    if p = Byte.star then
      match rest with
      | q :: behind =>
        if q = Byte.star then
          if c.atStart then
            match behind with
            | [] => .done .matched
            | s :: behind' =>
              if s = Byte.slash then
                .goOn { c with
                  rest := behind'
                  star := none
                  doubleStar := some (c.pattern.length - behind'.length, c.name) }
              else singleStar c behind
          else singleStar c behind
        else singleStar c rest
      | [] => singleStar c rest
    else if p = Byte.question then
      let (k, n) := firstChar c.name
      if k = '/' then retry { c with atStart := false } c.rest
      else .goOn { c with rest := rest, name := c.name.drop n, atStart := false }
    else if p = Byte.openBracket then
      if rest = [] then .done .malformed
      else
        let (k, n) := firstChar c.name
        match testClass k rest with
        | .malformed => .done .malformed
        | .refused stop => retry { c with atStart := false } stop
        | .accepted rest => .goOn { c with rest := rest, name := c.name.drop n, atStart := false }
    else if p = Byte.openBrace then
      match splitChoice? 0 false rest with
      | none => .done .malformed
      | some (inside, behind) => .choose (choices c inside behind)
    else if p = Byte.backslash then
      if rest = [] then .done .malformed else literal c rest c.rest
    else
      -- behind an escaped byte checking starts again at the backslash
      let previous := c.pattern[c.position - 1]?
      let stop := if c.position ≠ 0 ∧ previous = some Byte.backslash then Byte.backslash :: c.rest
        else c.rest
      literal c c.rest stop

def emptyRests : List Bytes := ["", "*", "**", "/**", "**/", "/**/"]

/-- Whether the rest of a pattern matches the empty name. -/
def matchEmpty : (fuel : Nat) → Bytes → Verdict
  | 0, _ => .unmatched
  | fuel + 1, rest =>
    if emptyRests.contains rest then .matched
    else if rest.head? = some Byte.openBrace then
      match splitChoice? 0 false (rest.drop 1) with
      | none => .malformed
      | some (inside, behind) =>
        .firstOf ((alternatives 0 false inside).map fun option => matchEmpty fuel (option ++ behind))
    else if isValid rest then .unmatched
    else .malformed

def run : (fuel : Nat) → Cursor → Verdict
  | 0, _ => .unmatched
  | fuel + 1, c =>
    -- at the end of the name no star is taken back: the rest has to match nothing
    if c.name.isEmpty then matchEmpty (c.rest.length + 1) c.rest
    else
      match step c with
      | .done v => v
      | .goOn next => run fuel next
      | .choose options => .firstOf (options.map (run fuel))

def enough (pattern name : Bytes) : Nat :=
  let p := pattern.length + 2
  let n := name.length + 2
  p * p * (n * n)

def accepts (pattern name : Bytes) : Bool :=
  run (enough pattern name) ⟨pattern, pattern, name, true, none, none⟩ == .matched

def special : Bytes := "\\*?[]\x7b\x7d"

def escape (s : Bytes) : Bytes :=
  s.flatMap fun c => if special.contains c then [Byte.backslash, c] else [c]

end Graft.Glob
