import Graft.Text.Bytes

/-!
# Graft.Text.Utf8

Reading bytes as UTF-8. Ill-formed input is read one byte at a time, so each text has exactly one
reading and nothing is lost.

* `Utf8.Piece`: a scalar value, or one byte that starts no well-formed sequence.
* `Utf8.pieces`: the reading of a text.
* `Utf8.chars`: the same with U+FFFD in place of each ill-formed byte.
* `Utf8.isValid`: no byte is ill-formed.
* `Utf8.encode`: the bytes of one scalar value.
* `Space.isBlank`, `Space.trim`: white space in the sense of Unicode.
-/

namespace Graft.Utf8

inductive Piece where
  | char (c : Char)
  | illFormed (b : UInt8)
deriving DecidableEq, Repr

def encode (c : Char) : Bytes := String.utf8EncodeChar c

def replacement : Char := '\uFFFD'

def isContinuation (b : UInt8) : Bool := 0x80 ≤ b && b ≤ 0xBF

/-- The second bytes that may follow a leading byte: overlong forms, surrogates and values above
U+10FFFF are excluded here. -/
def secondRange (lead : UInt8) : UInt8 × UInt8 :=
  if lead = 0xE0 then (0xA0, 0xBF)
  else if lead = 0xED then (0x80, 0x9F)
  else if lead = 0xF0 then (0x90, 0xBF)
  else if lead = 0xF4 then (0x80, 0x8F)
  else (0x80, 0xBF)

def tail (b : UInt8) : Nat := b.toNat % 64

/-- The well-formed sequence at the head of a text, with its length. -/
def head? : Bytes → Option (Char × Nat)
  | [] => none
  | a :: rest =>
    if a < 0x80 then some (Char.ofNat a.toNat, 1)
    else if a < 0xC2 then none
    else
      let (lo, hi) := secondRange a
      match rest with
      | [] => none
      | b :: rest =>
        if b < lo || hi < b then none
        else if a < 0xE0 then some (Char.ofNat (a.toNat % 32 * 64 + tail b), 2)
        else match rest with
          | [] => none
          | c :: rest =>
            if !isContinuation c then none
            else if a < 0xF0 then
              some (Char.ofNat (a.toNat % 16 * 4096 + tail b * 64 + tail c), 3)
            else if a < 0xF5 then
              match rest with
              | [] => none
              | d :: _ =>
                if !isContinuation d then none
                else some (Char.ofNat
                  (a.toNat % 8 * 262144 + tail b * 4096 + tail c * 64 + tail d), 4)
            else none

/-- The reading of a text whose first `skip` bytes belong to a sequence already read. -/
def piecesFrom : Nat → Bytes → List Piece
  | _, [] => []
  | skip + 1, _ :: rest => piecesFrom skip rest
  | 0, b :: rest =>
    match head? (b :: rest) with
    | some (c, n) => .char c :: piecesFrom (n - 1) rest
    | none => .illFormed b :: piecesFrom 0 rest

def pieces (s : Bytes) : List Piece := piecesFrom 0 s

def Piece.toChar : Piece → Char
  | .char c => c
  | .illFormed _ => replacement

def Piece.isChar : Piece → Bool
  | .char _ => true
  | .illFormed _ => false

def chars (s : Bytes) : List Char := (pieces s).map Piece.toChar

def isValid (s : Bytes) : Bool := (pieces s).all Piece.isChar

def encodeAll (cs : List Char) : Bytes := cs.flatMap encode

def scrub (s : Bytes) : Bytes := encodeAll (chars s)

end Graft.Utf8

/-! ## White space -/

namespace Graft.Space

def isSpace (c : Char) : Bool :=
  let n := c.toNat
  (0x09 ≤ n && n ≤ 0x0D) || n == 0x20 || n == 0x85 || n == 0xA0 || n == 0x1680 ||
    (0x2000 ≤ n && n ≤ 0x200A) || n == 0x2028 || n == 0x2029 || n == 0x202F || n == 0x205F ||
    n == 0x3000

def isBlank (s : Bytes) : Bool := (Utf8.chars s).all isSpace

/-- A text without the white space at its ends; an ill-formed byte becomes U+FFFD. -/
def trim (s : Bytes) : Bytes :=
  Utf8.encodeAll (((Utf8.chars s).dropWhile isSpace).reverse.dropWhile isSpace).reverse

end Graft.Space
