import Graft.Text.Bytes

/-!
# Graft.Ulid

Sortable identifiers: 48 bits of time in milliseconds and 80 bits of entropy, written with 26
digits of base 32, behind a label and an underscore.

* `Ulid.encode`: the digits of a time and its entropy.
* `Ulid.time`: the time a text of 26 digits carries.
* `Ulid.timestamp`: the time of a plain or labelled identifier.
* `Ulid.next`: an identifier from a source of entropy.
-/

namespace Graft.Ulid

def alphabet : Bytes := "0123456789ABCDEFGHJKMNPQRSTVWXYZ"

def textLength : Nat := 26

def entropyLength : Nat := 10

def digit (n : Nat) : UInt8 := alphabet.getD (n % 32) 0

/-- `width` digits of base 32, most significant first. -/
def digits : Nat → Nat → Bytes
  | 0, _ => []
  | width + 1, n => digits width (n / 32) ++ [digit n]

def number (bytes : Bytes) : Nat := bytes.foldl (fun n b => n * 256 + b.toNat) 0

def encode (milliseconds : Nat) (entropy : Bytes) : Bytes :=
  digits 10 milliseconds ++ digits 16 (number entropy)

/-- The value of a digit in either case; any other byte counts as 255. -/
def value (c : UInt8) : UInt8 :=
  match alphabet.findIdx? fun d => d == c || d == Byte.upper c with
  | some i => i.toUInt8
  | none => 0xFF

/-- Why a text carries no time. -/
inductive Fault where
  | dataSize
  | overflow
deriving DecidableEq, Repr

def Fault.message : Fault → Bytes
  | dataSize => "ulid: bad data size when unmarshaling"
  | overflow => "ulid: overflow when unmarshaling"

/-- The six bytes of time in the first ten digits; what does not fit into a byte is cut off. -/
def timeBytes : Bytes → Bytes
  | d0 :: d1 :: d2 :: d3 :: d4 :: d5 :: d6 :: d7 :: d8 :: d9 :: _ =>
    [ (d0 <<< 5) ||| d1
    , (d2 <<< 3) ||| (d3 >>> 2)
    , (d3 <<< 6) ||| (d4 <<< 1) ||| (d5 >>> 4)
    , (d5 <<< 4) ||| (d6 >>> 1)
    , (d6 <<< 7) ||| (d7 <<< 2) ||| (d8 >>> 3)
    , (d8 <<< 5) ||| d9 ]
  | _ => []

def time (text : Bytes) : Except Fault Nat :=
  if text.length ≠ textLength then .error .dataSize
  else if text.head?.any (0x37 < ·) then .error .overflow
  else .ok (number (timeBytes (text.map value)))

def unlabelled (id : Bytes) : Bytes := (id.reverse.takeWhile (· != Byte.underscore)).reverse

def timestamp (id : Bytes) : Except Fault Nat := time (unlabelled id)

def labelled (label : Bytes) (milliseconds : Nat) (entropy : Bytes) : Bytes :=
  label ++ "_" ++ encode milliseconds entropy

def buildLabel : Bytes := "build"

def isBuildId (id : Bytes) : Bool :=
  match Bytes.after? (buildLabel ++ "_") id with
  | some _ => (timestamp id).toOption.isSome
  | none => false

/-- The source of entropy ran out: with nothing left, or in the middle of an identifier. -/
inductive Shortage where
  | nothingLeft
  | cutShort
deriving DecidableEq, Repr

def Shortage.message : Shortage → Bytes
  | nothingLeft => "EOF"
  | cutShort => "unexpected EOF"

def next (label : Bytes) (milliseconds : Nat) (source : Bytes) : Except Shortage (Bytes × Bytes) :=
  if source.isEmpty then .error .nothingLeft
  else if source.length < entropyLength then .error .cutShort
  else .ok (labelled label milliseconds (source.take entropyLength), source.drop entropyLength)

end Graft.Ulid
