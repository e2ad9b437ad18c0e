import Graft.Charset.Plane.Big5
import Graft.Charset.Plane.Ksx1001

/-!
# Graft.Charset.MultiByte

Reading charsets of one to three bytes per character. What cannot be read becomes U+FFFD; a byte
that may be ASCII is then read again by itself.

* `MultiByte`: how one character is read.
* `MultiByte.decode`: a text as UTF-8.
* `shiftJis`, `eucJp`, `eucKr`, `big5`: the charsets.
* `iso2022Jp`: a charset that switches between sets by escape sequences.
-/

namespace Graft.Charset

abbrev MultiByte := UInt8 → Bytes → List Char × Nat

namespace MultiByte

/-- The characters of a text whose first `skip` bytes belong to one already read. -/
def chars (next : MultiByte) : (skip : Nat) → Bytes → List Char
  | _, [] => []
  | skip + 1, _ :: rest => chars next skip rest
  | 0, b :: rest =>
    let (found, n) := next b rest
    found ++ chars next n rest

def decode (next : MultiByte) (s : Bytes) : Bytes := Utf8.encodeAll (chars next 0 s)

def ascii (b : UInt8) : List Char × Nat := ([Char.ofNat b.toNat], 0)

def unreadable (n : Nat) : List Char × Nat := ([Utf8.replacement], n)

def katakana (n : Nat) : Char := Char.ofNat (0xFF61 + n)

/-! ## Japanese -/

/-- The number in its set that the second byte of Shift_JIS gives, and whether the set is the second
of the two that share a first byte. -/
def shiftJisSecond? (b : UInt8) : Option (Bool × Nat) :=
  if b < 0x40 || b == 0x7F || 0xFD ≤ b then none
  else if b < 0x7F then some (false, b.toNat - 0x40)
  else if b < 0x9F then some (false, b.toNat - 0x41)
  else some (true, b.toNat - 0x9F)

def shiftJis : MultiByte := fun a rest =>
  if a ≤ 0x80 then ascii a
  else if 0xA1 ≤ a && a < 0xE0 then ([katakana (a.toNat - 0xA1)], 0)
  else if a == 0xA0 || 0xFD ≤ a then unreadable 0
  else
    match rest with
    | [] => unreadable 0
    | b :: _ =>
      match shiftJisSecond? b with
      | none => unreadable (if b < 0x80 then 0 else 1)
      | some (second, n) =>
        let sets := (if a < 0xA0 then a.toNat - 0x81 else a.toNat - 0xC1) * 2
        ([Plane.jis0208.char ((if second then sets + 1 else sets) * 94 + n)], 1)

def isSetByte (b : UInt8) : Bool := 0xA1 ≤ b && b ≤ 0xFE

def setNumber (a b : UInt8) : Nat := (a.toNat - 0xA1) * 94 + (b.toNat - 0xA1)

def eucJp : MultiByte := fun a rest =>
  if a < 0x80 then ascii a
  else if a == 0x8E then
    match rest with
    | [] => unreadable 0
    | b :: _ =>
      if b < 0xA1 || b == 0xFF then unreadable 0
      else if 0xDF < b then unreadable 1
      else ([katakana (b.toNat - 0xA1)], 1)
  else if a == 0x8F then
    match rest with
    | b :: c :: _ =>
      if !isSetByte b then unreadable 0
      else if !isSetByte c then unreadable 1
      else ([Plane.jis0212.char (setNumber b c)], 2)
    | [b] => unreadable (if 0xA1 ≤ b && b < 0xFE then 1 else 0)
    | [] => unreadable 0
  else if isSetByte a then
    match rest with
    | [] => unreadable 0
    | b :: _ => if isSetByte b then ([Plane.jis0208.char (setNumber a b)], 1) else unreadable 0
  else unreadable 0

/-! ## Korean -/

/-- The number that two bytes make: the first 70 sets use letters as second bytes too. -/
def eucKrNumber? (a b : UInt8) : Option Nat :=
  if a < 0xC7 then
    let set := 178 * (a.toNat - 0x81)
    if 0x41 ≤ b && b < 0x5B then some (set + (b.toNat - 0x41))
    else if 0x61 ≤ b && b < 0x7B then some (set + 26 + (b.toNat - 0x61))
    else if 0x81 ≤ b && b < 0xFF then some (set + 52 + (b.toNat - 0x81))
    else none
  else if isSetByte b then some (178 * 70 + (a.toNat - 0xC7) * 94 + (b.toNat - 0xA1))
  else none

def eucKr : MultiByte := fun a rest =>
  if a < 0x80 then ascii a
  else if a == 0x80 || a == 0xFF then unreadable 0
  else
    match rest with
    | [] => unreadable 0
    | b :: _ =>
      match (eucKrNumber? a b).bind Plane.ksx1001.char? with
      | some c => ([c], 1)
      | none => unreadable (if b < 0x80 then 0 else 1)

/-! ## Chinese -/

def big5Marked : List (Nat × List Char) :=
  [(1133, ['\u00CA', '\u0304']), (1135, ['\u00CA', '\u030C']),
    (1164, ['\u00EA', '\u0304']), (1166, ['\u00EA', '\u030C'])]

def big5 : MultiByte := fun a rest =>
  if a < 0x80 then ascii a
  else if a == 0x80 || a == 0xFF then unreadable 0
  else
    match rest with
    | [] => unreadable 0
    | b :: _ =>
      if b < 0x40 then unreadable 0
      else if (0x7F ≤ b && b < 0xA1) || b == 0xFF then unreadable 1
      else
        let n := (a.toNat - 0x81) * 157 + (if b < 0x7F then b.toNat - 0x40 else b.toNat - 0x62)
        ((big5Marked.lookup n).getD [Plane.big5.char n], 1)

/-! ## Escape sequences -/

/-- The set that bytes are read in. -/
inductive Switch where
  | roman
  | kana
  | basic
  | supplement
deriving DecidableEq, Repr

def switch? (s : Bytes) : Option (Switch × Nat) :=
  if (Bytes.ofString "\x1b$@").isPrefixOf s || (Bytes.ofString "\x1b$B").isPrefixOf s then
    some (.basic, 3)
  else if (Bytes.ofString "\x1b$(D").isPrefixOf s then some (.supplement, 4)
  else if (Bytes.ofString "\x1b(B").isPrefixOf s || (Bytes.ofString "\x1b(J").isPrefixOf s then
    some (.roman, 3)
  else if (Bytes.ofString "\x1b(I").isPrefixOf s then some (.kana, 3)
  else none

def switchedChar (plane : Plane) (a b : UInt8) : Char :=
  plane.char ((a - 0x21).toNat * 94 + (b - 0x21).toNat)

/-- The characters of a text that switches sets; a line end leads back to the first. -/
def switched : Switch → (skip : Nat) → Bytes → List Char
  | _, _, [] => []
  | set, skip + 1, _ :: rest => switched set skip rest
  | set, 0, a :: rest =>
    if 0x80 ≤ a then Utf8.replacement :: switched set 0 rest
    else if a == 0x1B then
      match switch? (a :: rest) with
      | some (next, n) => switched next (n - 1) rest
      | none => Utf8.replacement :: switched set 0 rest
    else
      match set with
      | .roman => Char.ofNat a.toNat :: switched set 0 rest
      | .kana =>
        (if a < 0x21 || 0x60 ≤ a then Utf8.replacement else katakana (a.toNat - 0x21)) ::
          switched set 0 rest
      | .basic | .supplement =>
        if a == Byte.lf then '\n' :: switched .roman 0 rest
        else
          match rest with
          | [] => [Utf8.replacement]
          | b :: _ =>
            let plane := if set = .basic then Plane.jis0208 else Plane.jis0212
            switchedChar plane a b :: switched set 1 rest

def iso2022Jp (s : Bytes) : Bytes := Utf8.encodeAll (switched .roman 0 s)

end MultiByte

end Graft.Charset
