import Graft.Text.Bytes

/-!
# Graft.Text.Decimal

Floating point numbers as decimal text. The digits are the fewest that read back as the same
number, and of those the nearest to it.

* `Decimal.Binary`: a finite number as a fraction with the interval of reals that round to it.
* `Decimal.shortest`: its digits and the place of the point.
* `Decimal.text`: a number as text.
* `Decimal.read?`: the number that a decimal text stands for.
-/

namespace Graft.Decimal

/-- A positive number `value / unit` and the reals that round to it: those between `low / unit`
and `high / unit`, the ends included if `closed`. -/
structure Binary where
  value : Nat
  low : Nat
  high : Nat
  unit : Nat
  closed : Bool

/-- The number with the mantissa `m` and the power `q` of two; below a power of two the interval
is half as wide, except among the smallest numbers. -/
def Binary.ofParts (m : Nat) (q : Int) (narrow : Bool) : Binary :=
  let scale := 1 <<< q.toNat
  { value := 4 * m * scale
    low := (4 * m - if narrow then 1 else 2) * scale
    high := (4 * m + 2) * scale
    unit := 4 <<< (-q).toNat
    closed := m % 2 == 0 }

def mantissas : Nat := 0x10000000000000

def signBit : Nat := 0x8000000000000000

def tens (e : Int) : Nat := Nat.pow 10 e.toNat

def Binary.ofBits (bits : Nat) : Binary :=
  let field : Nat := bits / mantissas % 2048
  let mantissa := bits % mantissas
  -- the numbers next to zero have no hidden bit; at a power of two the gap below is half as wide
  if field = 0 then ofParts mantissa (-1074) false
  else ofParts (mantissa + mantissas) (Int.ofNat field - 1075) (mantissa == 0 && field != 1)

def Binary.admits (b : Binary) (n : Nat) (e : Int) : Bool :=
  let left := n * tens e * b.unit
  let scale := tens (-e)
  if b.closed then b.low * scale ≤ left && left ≤ b.high * scale
  else b.low * scale < left && left < b.high * scale

/-- How far `n · 10 ^ e` is from the number, in a unit that depends on `e` only. -/
def Binary.distance (b : Binary) (n : Nat) (e : Int) : Nat :=
  let left := n * tens e * b.unit
  let right := b.value * tens (-e)
  (left - right) + (right - left)

def Binary.below (b : Binary) (e : Int) : Nat :=
  b.value * tens (-e) / (b.unit * tens e)

def Binary.onGrid? (b : Binary) (e : Int) : Option Nat :=
  let n := b.below e
  match b.admits n e, b.admits (n + 1) e with
  | true, true => some (if b.distance n e ≤ b.distance (n + 1) e then n else n + 1)
  | true, false => some n
  | false, true => some (n + 1)
  | false, false => none

def Binary.magnitudeFrom (b : Binary) : (fuel : Nat) → Int → Int
  | 0, e => e
  | fuel + 1, e => if b.below (e + 1) = 0 then e else b.magnitudeFrom fuel (e + 1)

def Binary.magnitude (b : Binary) : Int := b.magnitudeFrom 640 (-324)

/-- The first grid, from coarse to fine, with a neighbour that rounds to the number. -/
def Binary.search (b : Binary) : (finer : Nat) → Int → Nat × Int
  | 0, e => (b.below e, e)
  | finer + 1, e =>
    match b.onGrid? e with
    | some n => (n, e)
    | none => b.search finer (e - 1)

def dropZeros : (fuel : Nat) → Nat → Int → Nat × Int
  | 0, n, e => (n, e)
  | fuel + 1, n, e => if n ≠ 0 ∧ n % 10 = 0 then dropZeros fuel (n / 10) (e + 1) else (n, e)

def Binary.shortest (b : Binary) : Nat × Int :=
  let (n, e) := b.search 17 b.magnitude
  dropZeros 20 n e

structure Style where
  lowest : Int
  limit : Int
  exponentWidth : Nat

def Style.document : Style := ⟨-6, 21, 1⟩

/-- Exponents from `-4` to `5` are written with a point only, others with two digits or more. -/
def Style.short : Style := ⟨-4, 6, 2⟩

def Style.exponent (style : Style) (n : Nat) : Bytes :=
  let digits := Bytes.ofNat n
  List.replicate (style.exponentWidth - digits.length) 0x30 ++ digits

def Style.layout (style : Style) (n : Nat) (e : Int) : Bytes :=
  let digits := Bytes.ofNat n
  let first := e + digits.length - 1
  let zeros (k : Int) : Bytes := List.replicate k.toNat 0x30
  if first < style.lowest ∨ style.limit ≤ first then
    let places := if digits.length ≤ 1 then [] else Byte.dot :: digits.drop 1
    let sign : UInt8 := if first < 0 then Byte.dash else Byte.plus
    digits.take 1 ++ places ++ 0x65 :: sign :: style.exponent first.natAbs
  else if 0 ≤ e then digits ++ zeros e
  else if 0 ≤ first then
    digits.take (first + 1).toNat ++ Byte.dot :: digits.drop (first + 1).toNat
  else "0." ++ zeros (-first - 1) ++ digits

def text (style : Style) (x : Float) : Bytes :=
  let bits := x.toBits.toNat
  let sign : Bytes := if bits / signBit = 0 then [] else "-"
  if bits % signBit = 0 then sign ++ "0"
  else
    let (n, e) := (Binary.ofBits (bits % signBit)).shortest
    sign ++ style.layout n e

def natOfDigits (s : Bytes) : Nat := s.foldl (fun n c => n * 10 + (c.toNat - 0x30)) 0

/-- The number of a decimal text: digits, perhaps a point with more of them, perhaps an exponent.
A number too large for a finite one is refused. -/
def read? (s : Bytes) : Option Float :=
  let negative := s.head? == some Byte.dash
  let s := if negative then s.drop 1 else s
  let whole := s.takeWhile Byte.isDigit
  let rest := s.dropWhile Byte.isDigit
  let places := if rest.head? == some Byte.dot then (rest.drop 1).takeWhile Byte.isDigit else []
  let rest := if rest.head? == some Byte.dot then (rest.drop 1).dropWhile Byte.isDigit else rest
  let power := rest.drop 1
  let power : Int :=
    if power.head? == some Byte.dash then -(natOfDigits (power.drop 1) : Int)
    else natOfDigits (power.dropWhile (· == Byte.plus))
  let n := natOfDigits (whole ++ places)
  let e := power - places.length
  let size := (Bytes.ofNat n).length + e
  let magnitude : Option Float :=
    if n = 0 ∨ size < -400 then some 0.0
    else if 400 < size then none
    else
      let x := Float.ofScientific n (e < 0) e.natAbs
      if x.isFinite then some x else none
  magnitude.map fun x => if negative then -x else x

end Graft.Decimal
