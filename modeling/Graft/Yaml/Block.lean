import Graft.Yaml.Token

/-!
# Graft.Yaml.Block

Text that goes on over several lines as it stands: behind a bar line ends are kept, behind an angle
bracket single ones become blanks. A plain word whose next line begins with a dash goes on like
that, too.

* `Yaml.Buffer`: text that is being collected.
* `Yaml.Block`: how far the lines of a block have been read.
* `Yaml.Block.chomped`: the text of a block with its end as the head asks for.
-/

namespace Graft.Yaml

/-! ## Collected text -/

/-- Text that is being collected, last character first. -/
structure Buffer where
  text : List Char := []
  tail : List Char := []

namespace Buffer

def all (b : Buffer) : List Char := b.tail ++ b.text

def isEmpty (b : Buffer) : Bool := b.all.isEmpty

/-- Adds a character. One that does not count is not kept in front. -/
def addIf (counts : Bool) (c : Char) (b : Buffer) : Buffer :=
  if counts then ⟨c :: b.all, []⟩
  else if b.isEmpty then b
  else { b with tail := c :: b.tail }

def add (c : Char) : Buffer → Buffer := addIf (!isBlank c) c

def addBlock (c : Char) : Buffer → Buffer := addIf (c != ' ') c

def addBlankLine (b : Buffer) : Buffer :=
  match b.tail with
  | ' ' :: tail => { b with tail := '\n' :: tail }
  | tail => { b with tail := '\n' :: tail }

end Buffer

/-! ## Blocks -/

/-- How the lines of a block are joined. -/
inductive Style where
  | literal
  | folded
deriving DecidableEq, Repr

/-- How far the lines of a block have been read. Columns that are not known yet are zero. -/
structure Block where
  style : Style
  strips : Bool
  keeps : Bool
  isStated : Bool := false
  first : Nat := 0
  current : Nat := 0
  previous : Nat := 0
  lastFull : Nat := 0
  blanks : Nat := 0
  isFoldable : Bool := false

namespace Block

def chomped (b : Block) (text : List Char) : List Char :=
  let isEnd (c : Char) := c == '\n'
  let cut :=
    if b.strips then (text.dropWhile isEnd).dropWhile (· == ' ')
    else if b.keeps then text
    else (text.takeWhile isEnd).take 1 ++ text.dropWhile isEnd
  let cut := if cut = ['\n'] then [] else cut
  if b.keeps && cut.isEmpty then ['\n'] else cut

def reach (column : Nat) (b : Block) : Block :=
  { b with
    first := if b.first = 0 then column else b.first
    current := if b.current = 0 then column else b.current }

def isSound (b : Block) : Bool := !b.isStated || b.first ≤ b.current

def passBlanks (column : Nat) (b : Block) : Block :=
  if b.first = 0 then { b with blanks := column } else b

def isOvertaken (column : Nat) (b : Block) : Bool := b.first = 0 && column < b.blanks

def nextLine (b : Block) : Block :=
  { b with
    previous := b.current
    lastFull := if b.current = 0 then b.lastFull else b.current
    isFoldable := true
    current := 0 }

def isIndent (column : Nat) (b : Block) : Bool :=
  if b.first = 0 then column = 1 else column < b.first

def indent (column : Nat) (b : Block) (buffer : Buffer) : Block × Buffer :=
  if b.first = 0 ∨ column < b.first then (b, buffer)
  else ({ b with isFoldable := b.isFoldable && b.style == .literal }, ⟨' ' :: buffer.all, []⟩)

/-- Turns the line end before a line of folded text into a blank, or drops it behind blank lines. -/
def fold (column : Nat) (b : Block) (buffer : Buffer) : Block × Buffer :=
  if b.style = .literal ∨ !b.isFoldable then (b, buffer)
  else
    let done := { b with isFoldable := false }
    if b.current = b.previous then
      match buffer.all with
      | '\n' :: rest => (done, ⟨' ' :: rest, []⟩)
      | _ => (done, buffer)
    else if b.previous = 0 ∧ b.lastFull = column then
      match buffer.all with
      | '\n' :: '\n' :: rest => (done, ⟨'\n' :: rest, []⟩)
      | _ => (done, buffer)
    else (done, buffer)

end Block

/-! ## Heads -/

def trimSigns (s : Bytes) : Bytes :=
  let front (s : Bytes) := dropSign Byte.plus (dropSign Byte.dash s)
  (front (front s).reverse).reverse

/-- The indentation that the head of a block states, zero if it states none. -/
def statedIndent? (option : Bytes) : Option Nat :=
  let digits := trimSigns option
  if digits.isEmpty then some 0
  else
    match digits with
    | [c] => if 0x31 ≤ c && c ≤ 0x39 then some (c.toNat - 0x30) else none
    | _ => none

def Block.ofHead? (style : Style) (option : Bytes) (parent : Nat) : Option Block :=
  (statedIndent? option).map fun indent =>
    let has (c : UInt8) := option.head? == some c || option.getLast? == some c
    { style
      strips := has Byte.dash
      keeps := has Byte.plus
      isStated := indent != 0
      first := if indent = 0 then 0 else parent + indent }

def Block.ofDash (column : Nat) : Block :=
  ({ style := .folded, strips := true, keeps := false } : Block).reach column

end Graft.Yaml
