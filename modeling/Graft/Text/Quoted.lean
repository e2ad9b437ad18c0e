import Graft.Text.Printable
import Graft.Text.Utf8

/-!
# Graft.Text.Quoted

A text between double quotes, with everything that is not printable escaped: short escapes where
there is one, `\x` with two digits for bytes and controls, `\u` with four and `\U` with eight.
-/

namespace Graft.Quoted

def hexDigits : Nat → Nat → Bytes
  | 0, _ => []
  | width + 1, n => hexDigits width (n / 16) ++ [Byte.hexDigit (n % 16).toUInt8]

def short? (c : Char) : Option UInt8 :=
  match c.toNat with
  | 0x07 => some 0x61
  | 0x08 => some 0x62
  | 0x0C => some 0x66
  | 0x0A => some 0x6E
  | 0x0D => some 0x72
  | 0x09 => some 0x74
  | 0x0B => some 0x76
  | 0x22 => some Byte.quote
  | 0x5C => some Byte.backslash
  | _ => none

def quoteChar (c : Char) : Bytes :=
  match short? c with
  | some escape => [Byte.backslash, escape]
  | none =>
    if Printable.isPrintable c then Utf8.encode c
    else if c.toNat < 0x80 then "\\x" ++ hexDigits 2 c.toNat
    else if c.toNat < 0x10000 then "\\u" ++ hexDigits 4 c.toNat
    else "\\U" ++ hexDigits 8 c.toNat

def quotePiece : Utf8.Piece → Bytes
  | .char c => quoteChar c
  | .illFormed b => "\\x" ++ Byte.hex b

def quote (s : Bytes) : Bytes :=
  Byte.quote :: (Utf8.pieces s).flatMap quotePiece ++ [Byte.quote]

/-- A character between single quotes; here a single quote is escaped and a double one is not. -/
def quoteLetter (c : Char) : Bytes :=
  let body : Bytes :=
    if c.toNat = 0x27 then "\\'" else if c.toNat = 0x22 then "\"" else quoteChar c
  "'" ++ body ++ "'"

end Graft.Quoted
