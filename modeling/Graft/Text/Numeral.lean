import Graft.Text.Quoted

/-!
# Graft.Text.Numeral

Integers and truth values as they are written in settings and on the command line. An integer may
have a sign, a base mark (`0x`, `0o`, `0b`, or a leading zero for octal) and single underscores
between its digits; it must fit into 64 bits.

* `Width.signed`, `Width.unsigned`: the first number that does not fit, with a sign and without.
* `Numeral.readInt`, `Numeral.readBool`: the value of a text.
* `Numeral.Fault`: why a text has none.
-/

namespace Graft.Width

def signed : Nat := 0x8000000000000000

def unsigned : Nat := 0x10000000000000000

def fits (n : Int) : Bool := -Int.ofNat signed ≤ n && n < Int.ofNat signed

end Graft.Width

namespace Graft.Numeral

inductive Fault where
  | syntaxFault
  | rangeFault
deriving DecidableEq, Repr

def Fault.text : Fault → Bytes
  | syntaxFault => "invalid syntax"
  | rangeFault => "value out of range"

def digitValue? (c : UInt8) : Option Nat :=
  if Byte.isDigit c then some (c.toNat - 0x30)
  else if Byte.isLetter c then some ((Byte.lower c).toNat - 0x61 + 10)
  else none

/-- The base of a number without sign, and its digits. -/
def baseOf (s : Bytes) : Nat × Bytes :=
  match s with
  | zero :: mark :: digit :: rest =>
    if zero = 0x30 then
      if Byte.lower mark = 0x62 then (2, digit :: rest)
      else if Byte.lower mark = 0x6F then (8, digit :: rest)
      else if Byte.lower mark = 0x78 then (16, digit :: rest)
      else (8, mark :: digit :: rest)
    else (10, s)
  | zero :: rest => if zero = 0x30 then (8, rest) else (10, s)
  | [] => (10, [])

/-- Reads digits in a base. A value that does not fit into 64 bits is a fault of its own, found
before a wrong digit behind it. -/
def readDigits (base : Nat) : Nat → Bytes → Except Fault Nat
  | n, [] => .ok n
  | n, c :: rest =>
    if c = Byte.underscore then readDigits base n rest
    else
      match digitValue? c with
      | none => .error .syntaxFault
      | some d =>
        if base ≤ d then .error .syntaxFault
        else if Width.unsigned ≤ n * base + d then .error .rangeFault
        else readDigits base (n * base + d) rest

/-- Whether every underscore stands between two digits, where a base mark counts as a digit. -/
def underscoresFit (isDigit : UInt8 → Bool) : (behindDigit : Bool) → Bytes → Bool
  | _, [] => true
  | behindDigit, c :: rest =>
    if c = Byte.underscore then
      behindDigit && rest.head?.any isDigit && underscoresFit isDigit false rest
    else underscoresFit isDigit (isDigit c) rest

/-- Whether the underscores of a number without sign are in their places. -/
def underscoresOk (s : Bytes) : Bool :=
  match s with
  | zero :: mark :: rest =>
    let m := Byte.lower mark
    if zero = 0x30 ∧ (m = 0x62 ∨ m = 0x6F ∨ m = 0x78) then
      underscoresFit (if m = 0x78 then fun c => (Byte.hexValue? c).isSome else Byte.isDigit) true rest
    else underscoresFit Byte.isDigit false s
  | _ => underscoresFit Byte.isDigit false s

def readNat (s : Bytes) : Except Fault Nat :=
  if s.isEmpty then .error .syntaxFault
  else
    let (base, digits) := baseOf s
    match readDigits base 0 digits with
    | .error e => .error e
    | .ok n =>
      if digits.contains Byte.underscore ∧ ¬ underscoresOk s then .error .syntaxFault else .ok n

def signOf : Bytes → Bool × Bytes
  | c :: rest =>
    if c = Byte.plus then (false, rest) else if c = Byte.dash then (true, rest)
    else (false, c :: rest)
  | [] => (false, [])

def readInt (s : Bytes) : Except Fault Int :=
  let (negative, digits) := signOf s
  match readNat digits with
  | .error e => .error e
  | .ok n =>
    if negative then if n ≤ Width.signed then .ok (-n) else .error .rangeFault
    else if n < Width.signed then .ok n else .error .rangeFault

def trueTexts : List Bytes := ["1", "t", "T", "true", "TRUE", "True"]

def falseTexts : List Bytes := ["0", "f", "F", "false", "FALSE", "False"]

def readBool (s : Bytes) : Except Fault Bool :=
  if trueTexts.contains s then .ok true
  else if falseTexts.contains s then .ok false
  else .error .syntaxFault

def intReport (s : Bytes) (e : Fault) : Bytes :=
  "strconv.ParseInt: parsing " ++ Quoted.quote s ++ ": " ++ e.text

def boolReport (s : Bytes) (e : Fault) : Bytes :=
  "strconv.ParseBool: parsing " ++ Quoted.quote s ++ ": " ++ e.text

end Graft.Numeral
