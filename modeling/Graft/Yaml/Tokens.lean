import Graft.Yaml.Block
import Graft.Yaml.Quoted

/-!
# Graft.Yaml.Tokens

The tokens of a text. A plain word may go on over several lines as long as these stand to the right
of the key or dash it belongs to, so that a word only ends where something else is recognised.

* `Yaml.Scan`: how far a text has been read.
* `Yaml.Scan.step?`: reads the next character.
* `Yaml.tokens?`: the tokens of a text.
-/

namespace Graft.Yaml

/-- Where a line begins, seen from the key or dash that the text before belongs to. -/
inductive Turn where
  | keep
  | up
  | down
deriving DecidableEq, Repr

structure Scan where
  rest : List Char
  last : Option Char := none
  line : Nat := 1
  column : Nat := 1
  delimiter : Nat := 0
  indent : Nat := 0
  isLineStart : Bool := true
  isName : Bool := false
  isDirective : Bool := false
  brackets : Int := 0
  braces : Nat := 0
  turn : Turn := .keep
  saved : Option (Nat × Nat) := none
  buffer : Buffer := {}
  written : List Char := []
  block : Option Block := none
  tokens : List Token := []

def reservedTags : List Bytes :=
  ["!!int", "!!float", "!!null", "!!seq", "!!map", "!!str", "!!binary", "!!omap", "!!set",
    "!!timestamp", "!!bool", "!!merge"]

/-- Where a piece first stands in a text, counted from one; zero if it does not. -/
def placeIn (piece : List Char) : (column : Nat) → List Char → Nat
  | column, [] => if piece.isEmpty then column else 0
  | column, c :: rest =>
    if piece.isPrefixOf (c :: rest) then column else placeIn piece (column + 1) rest

namespace Scan

/-! ## Moving -/

/-- Passes over characters without counting columns. -/
def pass (n : Nat) (s : Scan) : Scan :=
  { s with rest := s.rest.drop n, last := (s.rest.take n).getLast?.or s.last }

def forward (n : Nat) (s : Scan) : Scan := { s.pass n with column := s.column + n }

def nextLine (s : Scan) : Scan :=
  { s.pass 1 with
    line := s.line + 1
    column := 1
    indent := 0
    isLineStart := true
    isName := false
    isDirective := false }

def write (c : Char) (s : Scan) : Scan := { s with written := c :: s.written }

def isFlow (s : Scan) : Bool := 0 < s.brackets || 0 < s.braces

/-! ## Collected text -/

def hasWord (s : Scan) : Bool := !s.buffer.text.isEmpty

def clear (s : Scan) : Scan := { s with buffer := {}, written := [], block := none }

def add (t : Token) (s : Scan) : Scan := { s with tokens := t :: s.tokens }

def mark (kind : Kind) (text : List Char) (s : Scan) : Scan :=
  s.add
    { kind, text := Utf8.encodeAll text, line := s.line, column := s.column,
      written := s.written.reverse }

def addText (text : List Char) (s : Scan) : Scan := s.mark .plain text.reverse

def markChar (kind : Kind) (c : Char) (s : Scan) : Scan :=
  ((s.write c).mark kind [c]).forward 1 |>.clear

/-- The value of a word behind the tokens so far: behind a tag of unknown meaning every word is
text. -/
def valueOf (word : Bytes) (s : Scan) : Scalar :=
  match s.tokens with
  | t :: _ => if t.kind = .tag ∧ t.text ∉ reservedTags then .text word else resolve word
  | [] => resolve word

def buffered (s : Scan) : Option Token × Scan :=
  let text := match s.block with
    | some block => block.chomped s.buffer.text
    | none => s.buffer.text
  let kept := { s with buffer := {}, saved := none }
  if text.isEmpty then (none, kept)
  else
    let (line, column) := match s.saved, s.block with
      | some place, _ => place
      | none, some _ => (s.line, placeIn s.buffer.all.reverse 1 s.written.reverse)
      | none, none => (s.line, s.column - s.buffer.all.length)
    let word := Utf8.encodeAll text.reverse
    (some
      { kind := .plain, text := word, line, column, written := s.written.reverse
        value := if s.block.isSome then .text word else s.valueOf word },
      { kept with written := [] })

def flush (s : Scan) : Scan :=
  match s.buffered with
  | (some t, s) => s.add t
  | (none, s) => s

/-! ## Marks -/

def run (c : Char) (s : Scan) : Nat := (s.rest.takeWhile (· == c)).length

def divider? (kind : Kind) (c : Char) (s : Scan) : Option Scan :=
  if s.indent = 0 ∧ s.column = 1 ∧ s.run c = 3 then
    let s := s.flush
    some (((s.mark kind [c, c, c]).forward 3).clear)
  else none

def start? (s : Scan) : Option Scan :=
  (s.divider? .start '-').map fun s => { s with delimiter := 0, indent := 0 }

def endsMergeKey : List Char → Bool
  | [] => false
  | ' ' :: rest => endsMergeKey rest
  | ':' :: rest =>
    (match rest with
      | [] => false
      | c :: _ => c == ' ' || isBreak c) || endsMergeKey rest
  | _ => false

def merge? (s : Scan) : Option Scan :=
  if s.run '<' = 2 ∧ endsMergeKey (s.rest.drop 2) then
    some (({ s with delimiter := s.column }.mark .merge ['<', '<']).forward 2).clear
  else none

def dashLine? (s : Scan) : Option Scan :=
  if s.hasWord ∧ s.turn = .up then
    some <|
      ({ s with block := some (.ofDash s.column), buffer := s.buffer.add '-' }.write '-').forward 1
  else none

def hasTabIndent (s : Scan) : Bool :=
  match s.written.reverse with
  | '\t' :: _ => true
  | ' ' :: '\t' :: _ => true
  | _ => false

def endsMark (next : List Char) : Bool :=
  match next with
  | [] => true
  | c :: _ => isBlank c || isBreak c

def nameMark? (kind : Kind) (c : Char) (s : Scan) : Option Scan :=
  if s.hasWord then none else some { s.flush.markChar kind c with isName := true }

/-- The dash before an item; the outer result is missing where it is no such dash, the inner one
where it may not stand there. -/
def dash? (next : List Char) (s : Scan) : Option (Option Scan) :=
  if s.hasWord || !(endsMark next || next.head? == some '\x00') then none
  else if s.hasTabIndent then some none
  else some (some ({ s with delimiter := s.column }.markChar .dash '-'))

def endsKey (next : List Char) (s : Scan) : Bool :=
  if s.isDirective then false
  else if s.braces = 0 then endsMark next
  else next.head? != some '/' && !s.tokens.head?.any fun t => t.kind == Kind.colon

def colon? (next : List Char) (s : Scan) : Option (Option Scan) :=
  if !s.endsKey next then none
  else if s.hasTabIndent then some none
  else
    let keyed : Scan := match s.buffered with
      | (some t, s) => { s.add t with delimiter := t.column }
      | (none, s) =>
        match s.tokens with
        | t :: _ => if t.kind = Kind.quoted then { s with delimiter := t.column } else s
        | [] => s
    some (some (keyed.markChar .colon ':'))

/-- The head of a block of text. The last character of a text does not count in it. -/
def blockHead? (style : Style) (next : List Char) (s : Scan) : Option Scan :=
  let line := next.takeWhile fun c => !isBreak c
  let rest := next.drop line.length
  let value := if rest.isEmpty then line.dropLast else line
  let value := (value.reverse.dropWhile (· == ' ')).reverse
  let shown := if value.head? == some '#' then value else value.takeWhile (· != '#')
  let option := Utf8.encodeAll (shown.reverse.dropWhile isBlank).reverse
  let s := if s.column = 1 then { s with delimiter := 1 } else s
  (Block.ofHead? style option s.delimiter).map fun block =>
    let s := s.mark .block []
    let ends := match rest with
      | '\r' :: '\n' :: _ => 1
      | _ => 0
    let s := { s with block := some block, buffer := {}, written := [], turn := .keep }
    (s.pass (1 + line.length + ends)).nextLine

/-- A tag, up to a blank, a line end or, inside brackets and braces, a comma. A tag that the text
cuts short is none. -/
def tag? (next : List Char) (s : Scan) : Option Scan :=
  let stops (c : Char) :=
    c == ' ' || isBreak c || c == '\x7b' || c == '\x7d' || (c == ',' && s.isFlow)
  let name := next.takeWhile fun c => !stops c
  let s := { s with written := name.reverse ++ '!' :: s.written }
  match next.drop name.length with
  | [] => some (s.forward (name.length + 1)).clear
  | c :: _ =>
    if c == '\x7b' || c == '\x7d' then none
    else
      let s := s.mark .tag ('!' :: name)
      let width := if c == ' ' then name.length + 1 else name.length
      some { (s.pass (width + 1)).clear with column := s.column + width }

def comment? (next : List Char) (s : Scan) : Option Scan :=
  if s.hasWord && !s.last.any fun c => isBlank c || isBreak c then none
  else
    let text := next.takeWhile fun c => !isBreak c
    let s := s.flush.mark .comment text
    some ((s.pass (text.length + 1)).nextLine).clear

def quote? (read : Reading → List Char → Option (Reading × List Char)) (c : Char)
    (next : List Char) (s : Scan) : Option Scan :=
  (read { written := c :: s.written, line := s.line, column := s.column + 1 } next).map
    fun (r, rest) =>
      let t : Token :=
        { kind := .quoted, text := Utf8.encodeAll r.text.reverse, line := s.line
          column := s.column, written := r.written.reverse }
      let s := (s.add t).clear
      let s := if r.isBroken then
          { s with indent := 0, isLineStart := true, isName := false, isDirective := false }
        else s
      { s with rest, last := some c, line := r.line, column := r.column }

/-! ## Lines -/

/-- The end of a line outside blocks. A word goes on behind it, unless it is a name. -/
def lineEnd (c : Char) (next : List Char) (s : Scan) : Scan :=
  let s := if s.buffer.isEmpty ∨ s.saved.isSome then s
    else { s with saved := some (s.line, s.column - s.buffer.text.length) }
  let s := if s.written.head?.any isBlank then
      { s with written := s.written.dropWhile isBlank, buffer := { s.buffer with tail := [] } }
    else s
  let isPair := c == '\r' && next.head? == some '\n'
  let s := if isPair then s.pass 1 else s
  let s := if (s.rest.drop 1).isEmpty || s.isName || s.isDirective then s.flush else s
  let buffer := if s.hasWord && s.isLineStart then s.buffer.addBlankLine else s.buffer.add ' '
  ({ s with buffer }.write '\n').nextLine

def blank? (s : Scan) : Option Scan :=
  if s.isLineStart then some ((s.write ' ').forward 1)
  else if s.isDirective then some ((s.flush.write ' ').forward 1)
  else if s.isName then some { s.flush with isName := false }
  else none

/-- A tab outside blocks; behind the last key or dash it does not count. -/
def tab? (s : Scan) : Option (Option Scan) :=
  if (s.hasWord && s.delimiter == 0) || s.delimiter < s.column then
    some (some ({ s with indent := s.indent + 1 }.write '\t' |>.pass 1))
  else if s.isLineStart && !s.isFlow then some none
  else none

def turned (c : Char) (s : Scan) : Scan :=
  if !s.isLineStart then { s with turn := .keep }
  else if isBreak c || c == '\t' then s
  else if c == ' ' then { s with indent := s.indent + 1 }
  else
    let turn := if s.delimiter = 0 then s.turn else if s.delimiter < s.column then .up else .down
    { s with turn, isLineStart := false }

/-! ## Characters -/

def wordChar (c : Char) (s : Scan) : Scan :=
  ({ s with buffer := s.buffer.add c }.write c).forward 1

/-- What a mark comes to: where it is none, its character belongs to a word. -/
def orWord (c : Char) (s : Scan) (marked : Option Scan) : Option Scan :=
  some (marked.getD (s.wordChar c))

/-- The same where a mark may not stand in some places. -/
def orWord? (c : Char) (s : Scan) (marked : Option (Option Scan)) : Option Scan :=
  marked.getD (some (s.wordChar c))

def char? (c : Char) (next : List Char) (s : Scan) : Option Scan :=
  match c with
  | '\x7b' =>
    if s.hasWord && !s.isFlow then some (s.wordChar c)
    else some { s.flush.markChar .openBrace c with braces := s.braces + 1 }
  | '\x7d' =>
    if s.braces = 0 then some (s.wordChar c)
    else some { s.flush.markChar .closeBrace c with braces := s.braces - 1 }
  | '[' =>
    if s.hasWord && !s.isFlow then some (s.wordChar c)
    else some { s.flush.markChar .openBracket c with brackets := s.brackets + 1 }
  | ']' =>
    if s.hasWord && s.brackets ≤ 0 then some (s.wordChar c)
    else some { s.flush.markChar .closeBracket c with brackets := s.brackets - 1 }
  | ',' => if s.isFlow then some (s.flush.markChar .comma c) else some (s.wordChar c)
  | '.' => orWord c s (s.divider? .finish c)
  | '<' => orWord c s s.merge?
  | '-' =>
    -- three dashes come before a dash that goes on with a word, and both before an item
    match s.start?.or s.dashLine? with
    | some s => some s
    | none => orWord? c s (s.dash? next)
  | ':' => orWord? c s (s.colon? next)
  | '|' => if s.hasWord then some (s.wordChar c) else s.blockHead? .literal next
  | '>' => if s.hasWord then some (s.wordChar c) else s.blockHead? .folded next
  | '!' => if s.hasWord || s.isDirective then some (s.wordChar c) else s.tag? next
  | '%' =>
    if s.hasWord || s.indent != 0 then some (s.wordChar c)
    else some { s.markChar .directive c with isDirective := true }
  | '?' =>
    if s.hasWord || !next.head?.any isBlank then some (s.wordChar c)
    else some ({ s with delimiter := s.column }.markChar .question c)
  | '&' => orWord c s (s.nameMark? .anchor c)
  | '*' => orWord c s (s.nameMark? .reference c)
  | '#' => orWord c s (s.comment? next)
  | '\x27' =>
    if s.hasWord then some (s.wordChar c) else s.quote? (singleQuoted? s.delimiter false) c next
  | '\x22' =>
    if s.hasWord then some (s.wordChar c) else s.quote? (doubleQuoted? s.delimiter 0 false) c next
  | ' ' => orWord c s s.blank?
  | '\t' => orWord? c s s.tab?
  | _ =>
    if isBreak c then some (s.lineEnd c next)
    else if (c == '@' || c == '\x60') && !s.hasWord then none
    else some (s.wordChar c)

/-- Leaves a block, which ends before a line that is not to its right. A block without text is
empty; there is none where its head or its text stands in the first column. -/
def leaveBlock? (s : Scan) : Option Scan :=
  match s.tokens with
  | [] => some { s with block := none }
  | t :: _ =>
    if t.column = 1 then none
    else
      let s := if t.isText then s else s.add { kind := .plain, line := s.line, column := s.column }
      some { s with block := none }

def blockChar? (block : Block) (c : Char) (next : List Char) (s : Scan) : Option Scan :=
  let isPair := c == '\r' && next.head? == some '\n'
  let s := if isPair then (s.write c).pass 1 else s
  let c := if isBreak c then '\n' else c
  let s := s.write c
  let isIndent := s.isLineStart && c == ' '
  if (s.rest.drop 1).isEmpty then
    let buffer := if isIndent then (block.indent s.column s.buffer).2 else s.buffer.add c
    if (block.reach s.column).isSound then
      some (((s.addText (block.chomped buffer.text)).forward 1).clear)
    else none
  else if isBreak c then
    let block := (block.passBlanks (s.column - 1)).nextLine
    let s := { s with buffer := s.buffer.add c, block := some block }.nextLine
    if startsDocument s.rest then some (s.addText (block.chomped s.buffer.text)).clear else some s
  else if isIndent then
    let (block, buffer) := block.indent s.column s.buffer
    some ({ s with block := some block, buffer }.forward 1)
  else if s.isLineStart && c == '\t' && block.isIndent s.column then none
  else if c == '\t' && !block.isIndent s.column then
    some ({ s with buffer := s.buffer.addBlock c }.forward 1)
  else if block.isOvertaken s.column then none
  else
    let block := block.reach s.column
    if !block.isSound then none
    else
      let delimiter := if block.first ≤ 1 then s.delimiter else block.first - 1
      let (block, buffer) := block.fold s.column s.buffer
      some ({ s with block := some block, buffer := buffer.addBlock c, delimiter }.forward 1)

def step? (s : Scan) : Option Scan :=
  match s.rest with
  | [] => some s
  | c :: next =>
    let s := s.turned c
    let s := if s.turn = .down then s.flush else s
    match s.block with
    | none => s.char? c next
    | some block =>
      if s.turn = .down then s.leaveBlock?.bind fun s => s.char? c next
      else s.blockChar? block c next

def run? : (fuel : Nat) → Scan → Option Scan
  | 0, _ => none
  | fuel + 1, s =>
    if s.rest.isEmpty then some s.flush
    else
      match s.step? with
      | none => none
      | some s => run? fuel s

end Scan

def tokens? (s : Bytes) : Option (List Token) :=
  let chars := Utf8.chars s
  (Scan.run? (2 * chars.length + 1) { rest := chars }).map fun s =>
    s.tokens.reverse.filter fun t => t.kind != .comment

end Graft.Yaml
