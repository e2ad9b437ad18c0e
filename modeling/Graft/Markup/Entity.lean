import Graft.Markup.Entity.Table
import Graft.Text.Utf8

/-!
# Graft.Markup.Entity

Character references: `&lt;`, `&#60;`, `&#x3C;`.

* `Entity.reference?`: the reference that follows an ampersand, if there is one.
* `Entity.decode`: a text with its references replaced.
-/

namespace Graft.Windows1252

def upperControls : List Nat := [
  0x20AC, 0x0081, 0x201A, 0x0192, 0x201E, 0x2026, 0x2020, 0x2021,
  0x02C6, 0x2030, 0x0160, 0x2039, 0x0152, 0x008D, 0x017D, 0x008F,
  0x0090, 0x2018, 0x2019, 0x201C, 0x201D, 0x2022, 0x2013, 0x2014,
  0x02DC, 0x2122, 0x0161, 0x203A, 0x0153, 0x009D, 0x017E, 0x0178
]

def codePoint (n : Nat) : Nat :=
  if 0x80 ≤ n ∧ n ≤ 0x9F then upperControls.getD (n - 0x80) n else n

end Graft.Windows1252

namespace Graft.Markup.Entity

/-- Where a reference stands. An attribute value is read more strictly than text: a name without
semicolon in front of `=` is left alone, and no shorter name is tried. -/
inductive Place where
  | text
  | attribute
deriving DecidableEq

def longestBareName : Nat := 6

def lookup? (name : Bytes) : Option (List Nat) :=
  let key := String.ofList (name.map fun b => Char.ofNat b.toNat)
  match name with
  | [] => none
  | first :: _ => (entries (Char.ofNat first.toNat)).lookup key

/-- What a number stands for: the control range is read as Windows-1252; zero, surrogates and
values above U+10FFFF become U+FFFD. -/
def ofNumber (n : UInt32) : Nat :=
  if 0x80 ≤ n ∧ n ≤ 0x9F then Windows1252.codePoint n.toNat
  else if n = 0 ∨ (0xD800 ≤ n ∧ n ≤ 0xDFFF) ∨ 0x10FFFF < n then 0xFFFD
  else n.toNat

def number (base : UInt32) (digits : Bytes) : UInt32 :=
  digits.foldl (fun n d => base * n + ((Byte.hexValue? d).getD 0).toUInt32) 0

/-- A numeric reference from what follows `&#`, with the number of bytes it takes. A decimal one
needs two bytes of digits and semicolon together, a hexadecimal one needs one. -/
def numeric? (s : Bytes) : Option (List Nat × Nat) :=
  if s.length ≤ 1 then none
  else
    let isHex := s.head? = some 0x78 ∨ s.head? = some 0x58
    let body := if isHex then s.drop 1 else s
    let isDigit := if isHex then fun b => (Byte.hexValue? b).isSome else Byte.isDigit
    let digits := body.takeWhile isDigit
    let semicolon := if (body.drop digits.length).head? = some Byte.semicolon then 1 else 0
    let used := digits.length + semicolon
    if isHex then
      if used = 0 then none else some ([ofNumber (number 16 digits)], 1 + used)
    else if used ≤ 1 then none else some ([ofNumber (number 10 digits)], used)

def barePart? (name : Bytes) : Nat → Option (List Nat × Nat)
  | 0 => none
  | 1 => none
  | n + 2 =>
    match lookup? (name.take (n + 2)) with
    | some [code] => some ([code], n + 2)
    | _ => barePart? name (n + 1)

def named? (place : Place) (s : Bytes) : Option (List Nat × Nat) :=
  let word := s.takeWhile Byte.isAlphanumeric
  let behind := s.drop word.length
  let closed := behind.head? = some Byte.semicolon
  let name := if closed then word ++ [Byte.semicolon] else word
  if place = .attribute ∧ ¬ closed ∧ behind.head? = some Byte.eq then none
  else
    match lookup? name with
    | some codes => some (codes, name.length)
    | none =>
      match place with
      | .attribute => none
      | .text => barePart? name (min (name.length - 1) longestBareName)

def reference? (place : Place) : Bytes → Option (List Nat × Nat)
  | [] => none
  | c :: rest =>
    if c = Byte.hash then (numeric? rest).map fun (codes, n) => (codes, n + 1)
    else named? place (c :: rest)

def decodeFrom (place : Place) : Nat → Bytes → Bytes
  | _, [] => []
  | skip + 1, _ :: rest => decodeFrom place skip rest
  | 0, c :: rest =>
    if c = Byte.amp then
      match reference? place rest with
      | some (codes, n) => codes.flatMap (Utf8.encode ∘ Char.ofNat) ++ decodeFrom place n rest
      | none => c :: decodeFrom place 0 rest
    else c :: decodeFrom place 0 rest

def decode (place : Place) (s : Bytes) : Bytes := decodeFrom place 0 s

end Graft.Markup.Entity
