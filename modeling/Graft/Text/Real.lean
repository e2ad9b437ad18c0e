import Graft.Text.Numeral

/-!
# Graft.Text.Real

Floating point numbers as they are written in settings: decimal with an optional exponent,
hexadecimal with a binary exponent, infinities and the value that is no number. Underscores may
stand between digits.

* `Real.Written`: a finite number as written, exactly.
* `Real.read?`: the nearest floating point number; none if the text is no number or it is out of
  range.
* `Real.truncate`: its whole part in 64 bits.
-/

namespace Graft.Real

structure Written where
  digits : Nat
  hexadecimal : Bool
  exponent : Int

/-- The digits before and behind the point, read up to the first byte that is neither. -/
structure Mantissa where
  value : Nat
  places : Nat
  hasPoint : Bool
  hasDigits : Bool

def Mantissa.empty : Mantissa := ⟨0, 0, false, false⟩

/-- Reads digits in a base, a point among them and underscores; gives the rest. -/
def readMantissa (digit? : UInt8 → Option Nat) (base : Nat) : Mantissa → Bytes → Mantissa × Bytes
  | m, [] => (m, [])
  | m, c :: rest =>
    if c = Byte.underscore then readMantissa digit? base m rest
    else if c = Byte.dot ∧ !m.hasPoint then
      readMantissa digit? base { m with hasPoint := true } rest
    else
      match digit? c with
      | some d =>
        let places := if m.hasPoint then m.places + 1 else 0
        readMantissa digit? base ⟨m.value * base + d, places, m.hasPoint, true⟩ rest
      | none => (m, c :: rest)

def readExponent? (s : Bytes) : Option Int :=
  let (negative, digits) := Numeral.signOf s
  if digits.head?.any Byte.isDigit && digits.all (fun c => Byte.isDigit c || c == Byte.underscore) then
    let n := digits.foldl (fun n c => if c = Byte.underscore then n else n * 10 + (c.toNat - 0x30)) 0
    some (if negative then -n else n)
  else none

/-- A finite number without sign. A hexadecimal one has to have an exponent. -/
def readWritten? (s : Bytes) : Option Written :=
  let hexadecimal := s.head? == some 0x30 && s[1]?.map Byte.lower == some 0x78
  let digit? (c : UInt8) : Option Nat :=
    if hexadecimal then (Byte.hexValue? c).map UInt8.toNat
    else if Byte.isDigit c then some (c.toNat - 0x30) else none
  let body := if hexadecimal then s.drop 2 else s
  let (m, rest) := readMantissa digit? (if hexadecimal then 16 else 10) .empty body
  if !m.hasDigits then none
  else if s.contains Byte.underscore ∧ ¬ Numeral.underscoresOk s then none
  else
    let shift : Int := if hexadecimal then -4 * m.places else -m.places
    match rest with
    | [] => if hexadecimal then none else some ⟨m.value, false, shift⟩
    | mark :: power =>
      if Byte.lower mark = (if hexadecimal then 0x70 else 0x65) then
        (readExponent? power).map fun e => ⟨m.value, hexadecimal, shift + e⟩
      else none

def Written.toFloat (w : Written) : Float :=
  let size := (Bytes.ofNat w.digits).length
  if w.digits = 0 ∨ (size : Int) + w.exponent < -1500 then 0.0
  else if 1500 < size + w.exponent then 1.0 / 0.0
  else
    let k := w.exponent.natAbs
    if !w.hexadecimal then Float.ofScientific w.digits (w.exponent < 0) k
    else if w.exponent < 0 then Float.ofScientific (w.digits * Nat.pow 5 k) true k
    else Float.ofScientific (w.digits <<< k) false 0

def infinityWords : List Bytes := ["inf", "infinity"]

def nanWord : Bytes := "nan"

def read? (s : Bytes) : Option Float :=
  if s.lower = nanWord then some (0.0 / 0.0)
  else
    let (negative, body) := Numeral.signOf s
    let magnitude : Option Float :=
      if infinityWords.contains body.lower then some (1.0 / 0.0)
      else
        match readWritten? body with
        | some w => if w.toFloat.isFinite then some w.toFloat else none
        | none => none
    magnitude.map fun x => if negative then -x else x

def unfit : Int := -Width.signed

def truncate (x : Float) : Int :=
  if x.isNaN ∨ x < -9223372036854775808.0 ∨ 9223372036854775808.0 ≤ x then unfit
  else if x < 0 then -(-x).toUInt64.toNat else x.toUInt64.toNat

end Graft.Real
