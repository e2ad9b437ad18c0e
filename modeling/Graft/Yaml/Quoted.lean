import Graft.Yaml.Token

/-!
# Graft.Yaml.Quoted

Quoted text, over any number of lines. Blanks around a line end go, one line end alone becomes a
blank, and of several the first goes.

* `Yaml.Reading`: how far quoted text has been read.
* `Yaml.singleQuoted?`, `Yaml.doubleQuoted?`: text behind an opening quote, and what follows the
  closing one.
-/

namespace Graft.Yaml

/-- How far quoted text has been read; both texts have their last character first. -/
structure Reading where
  text : List Char := []
  written : List Char
  line : Nat
  column : Nat
  isBroken : Bool := false
  surplus : Nat := 0

namespace Reading

def add (c : Char) (r : Reading) : Reading := { r with text := c :: r.text }

def write (c : Char) (r : Reading) : Reading := { r with written := c :: r.written }

def forward (n : Nat) (r : Reading) : Reading := { r with column := r.column + n }

def endLine (isFresh : Bool) (r : Reading) : Reading :=
  { r with
    text := (if isFresh then '\n' else ' ') :: r.text.dropWhile (· == ' ')
    line := r.line + 1
    column := 1
    isBroken := true }

end Reading

/-- Text behind an opening apostrophe; two of them stand for one. `limit` is the column that tabs
before text have to stand behind, and `isFresh` says that nothing but blanks stands before on the
line. -/
def singleQuoted? (limit : Nat) : (isFresh : Bool) → Reading → List Char →
    Option (Reading × List Char)
  | _, _, [] => none
  | isFresh, r, '\x27' :: '\x27' :: rest =>
    singleQuoted? limit isFresh ((((r.write '\x27').write '\x27').add '\x27').forward 2) rest
  | isFresh, r, c :: rest =>
    let r := r.write c
    if isBreak c then
      if startsDocument rest then none else singleQuoted? limit true (r.endLine isFresh) rest
    else if isFresh && c == ' ' then singleQuoted? limit isFresh (r.forward 1) rest
    else if isFresh && c == '\t' then
      if r.column ≤ limit then none else singleQuoted? limit isFresh (r.forward 1) rest
    else if c == '\x27' then some (r.forward 1, rest)
    else singleQuoted? limit false ((r.add c).forward 1) rest

/-! ## Escapes -/

def shortEscapes : List (Char × Nat) :=
  [('0', 0), ('a', 7), ('b', 8), ('t', 9), ('\t', 9), ('n', 10), ('v', 11), ('f', 12), ('r', 13),
    ('e', 27), (' ', 0x20), ('\x22', 0x22), ('/', 0x2F), ('\\', 0x5C), ('N', 0x85), ('_', 0xA0),
    ('L', 0x2028), ('P', 0x2029)]

def digitValue (c : Char) : Int :=
  if 'A' ≤ c && c ≤ 'F' then (c.toNat : Int) - 0x41 + 10
  else if 'a' ≤ c && c ≤ 'f' then (c.toNat : Int) - 0x61 + 10
  else (c.toNat : Int) - 0x30

def hexValue (digits : List Char) : Int := digits.foldl (fun n c => n * 16 + digitValue c) 0

def scalarOf (n : Int) : Char :=
  let n := (n % 0x100000000).toNat
  if n.isValidChar then Char.ofNat n else Utf8.replacement

/-- The character of an escape behind its backslash, and how many characters it takes. The digits
of a number that the text cuts short are not read. Two numbers are read where the first is the
first half of a pair. -/
def escape? (s : List Char) : Option (Char × Nat) :=
  match s with
  | [] => none
  | c :: rest =>
    let numbered (width : Nat) : Option (Char × Nat) :=
      if rest.length < width then some (c, 1)
      else some (scalarOf (hexValue (rest.take width)), width + 1)
    match shortEscapes.lookup c with
    | some n => some (Char.ofNat n, 1)
    | none =>
      if c == 'x' then numbered 2
      else if c == 'U' then numbered 8
      else if c == 'u' then
        let high := hexValue (rest.take 4)
        if rest.length < 4 ∨ high < 0xD800 ∨ 0xDBFF < high then numbered 4
        else
          let low := hexValue ((rest.drop 6).take 4)
          let isPair := rest.length ≥ 10 && (rest.drop 4).take 2 == ['\\', 'u'] &&
            0xDC00 ≤ low && low ≤ 0xDFFF
          if isPair then
            some (scalarOf ((high - 0xD800) * 0x400 + (low - 0xDC00) + 0x10000), 11)
          else none
      else none

def blanksAtEnd? : List Char → Option Nat
  | [] => some 0
  | c :: rest =>
    if isBreak c then some 0
    else if isBlank c then (blanksAtEnd? rest).map (· + 1)
    else none

def doubleQuoted? (limit : Nat) : (skip : Nat) → (isFresh : Bool) → Reading → List Char →
    Option (Reading × List Char)
  | _, _, _, [] => none
  | skip + 1, isFresh, r, _ :: rest => doubleQuoted? limit skip isFresh r rest
  | 0, isFresh, r, c :: rest =>
    let r := r.write c
    if isBreak c then
      if startsDocument rest then none else doubleQuoted? limit 0 true (r.endLine isFresh) rest
    else if isFresh && c == ' ' then doubleQuoted? limit 0 isFresh (r.forward 1) rest
    else if isFresh && c == '\t' then
      if r.column ≤ limit then none else doubleQuoted? limit 0 isFresh (r.forward 1) rest
    else if c == '\\' then
      if rest.head? == some '\n' then
        doubleQuoted? limit 1 true { r with line := r.line + 1, column := 1, isBroken := true } rest
      else
        match escape? rest with
        | none => none
        | some (char, n) => doubleQuoted? limit n false ((r.add char).forward (n + 1)) rest
    else if c == '\t' then
      match blanksAtEnd? rest with
      | some n => doubleQuoted? limit n isFresh (r.forward (n + 1)) rest
      | none =>
        let surplus := if rest.head? == some '\x22' then 0 else 1
        doubleQuoted? limit 0 isFresh
          { (r.add c).forward (surplus + 1) with surplus := r.surplus + surplus } rest
    else if c == '\x22' then some (r.forward 1, rest.drop r.surplus)
    else doubleQuoted? limit 0 false ((r.add c).forward 1) rest

end Graft.Yaml
