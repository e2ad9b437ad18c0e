/-!
# Graft.Text.Bytes

Text as a list of bytes. A component source, a path or a message need not be valid UTF-8, so every
text of the library is a `Bytes` value and only the outermost layer turns it into characters.

* `Byte`: names for the bytes the grammars mention, and the ASCII classes.
* `Bytes.ofString`: the UTF-8 bytes of a string, used for literals through a coercion.
* `Bytes.lower`: lower case on `A`–`Z` only.
* `Bytes.split`, `Bytes.le`, `Bytes.ofNat`: cutting at a byte, the bytewise order, decimal digits.
-/

namespace Graft

/-- A text: any sequence of bytes. -/
abbrev Bytes := List UInt8

namespace Byte

abbrev nul : UInt8 := 0x00
abbrev tab : UInt8 := 0x09
abbrev lf : UInt8 := 0x0A
abbrev ff : UInt8 := 0x0C
abbrev cr : UInt8 := 0x0D
abbrev space : UInt8 := 0x20
abbrev bang : UInt8 := 0x21
abbrev quote : UInt8 := 0x22
abbrev hash : UInt8 := 0x23
abbrev amp : UInt8 := 0x26
abbrev apostrophe : UInt8 := 0x27
abbrev star : UInt8 := 0x2A
abbrev plus : UInt8 := 0x2B
abbrev comma : UInt8 := 0x2C
abbrev dash : UInt8 := 0x2D
abbrev dot : UInt8 := 0x2E
abbrev slash : UInt8 := 0x2F
abbrev colon : UInt8 := 0x3A
abbrev semicolon : UInt8 := 0x3B
abbrev lt : UInt8 := 0x3C
abbrev eq : UInt8 := 0x3D
abbrev gt : UInt8 := 0x3E
abbrev question : UInt8 := 0x3F
abbrev openBracket : UInt8 := 0x5B
abbrev backslash : UInt8 := 0x5C
abbrev closeBracket : UInt8 := 0x5D
abbrev caret : UInt8 := 0x5E
abbrev underscore : UInt8 := 0x5F
abbrev openBrace : UInt8 := 0x7B
abbrev closeBrace : UInt8 := 0x7D

/-- The white space of tags: blank, tab, line feed, form feed and carriage return. -/
def isSpace (c : UInt8) : Bool :=
  c == space || c == lf || c == cr || c == tab || c == ff

def isUpper (c : UInt8) : Bool := 0x41 ≤ c && c ≤ 0x5A

def isLower (c : UInt8) : Bool := 0x61 ≤ c && c ≤ 0x7A

def isLetter (c : UInt8) : Bool := isLower c || isUpper c

def isDigit (c : UInt8) : Bool := 0x30 ≤ c && c ≤ 0x39

def isAlphanumeric (c : UInt8) : Bool := isLetter c || isDigit c

def hexValue? (c : UInt8) : Option UInt8 :=
  if isDigit c then some (c - 0x30)
  else if 0x61 ≤ c && c ≤ 0x66 then some (c - 0x57)
  else if 0x41 ≤ c && c ≤ 0x46 then some (c - 0x37)
  else none

/-- Lower case of `A`–`Z`; every other byte stays. -/
def lower (c : UInt8) : UInt8 := if isUpper c then c + 0x20 else c

/-- Upper case of `a`–`z`; every other byte stays. -/
def upper (c : UInt8) : UInt8 := if isLower c then c - 0x20 else c

/-- The lower-case hexadecimal digit of a number below sixteen. -/
def hexDigit (n : UInt8) : UInt8 := if n < 10 then 0x30 + n else 0x57 + n

def hex (c : UInt8) : Bytes := [hexDigit (c / 16), hexDigit (c % 16)]

end Byte

namespace Bytes

/-- The UTF-8 bytes of a string. -/
def ofString (s : String) : Bytes := s.toUTF8.data.toList

instance : Coe String Bytes := ⟨ofString⟩

def lower (s : Bytes) : Bytes := s.map Byte.lower

/-- Cuts at every occurrence of `sep`; the empty text has one empty piece. -/
def split (sep : UInt8) : Bytes → List Bytes
  | [] => [[]]
  | c :: cs =>
    match split sep cs with
    | [] => [[]]
    | piece :: rest => if c = sep then [] :: piece :: rest else (c :: piece) :: rest

/-- The bytewise order. -/
def le : Bytes → Bytes → Bool
  | [], _ => true
  | _ :: _, [] => false
  | a :: s, b :: t => if a = b then le s t else decide (a < b)

/-- Ascending bytewise order. -/
def sort (texts : List Bytes) : List Bytes := texts.mergeSort le

/-- Removes the later of two equal neighbours. -/
def dedup : List Bytes → List Bytes
  | a :: b :: rest => if a = b then dedup (b :: rest) else a :: dedup (b :: rest)
  | short => short

def joinWith (sep : Bytes) (pieces : List Bytes) : Bytes := (pieces.intersperse sep).flatten

/-- The rest of `s` behind `start`, if `s` begins with it. -/
def after? (start s : Bytes) : Option Bytes :=
  if start.isPrefixOf s then some (s.drop start.length) else none

/-- The rest of `s` behind the first occurrence of `piece`, and what precedes it. -/
def cut? (piece : Bytes) : Bytes → Option (Bytes × Bytes)
  | [] => if piece.isEmpty then some ([], []) else none
  | c :: cs =>
    if piece.isPrefixOf (c :: cs) then some ([], (c :: cs).drop piece.length)
    else (cut? piece cs).map fun (before, behind) => (c :: before, behind)

def containsPiece (piece s : Bytes) : Bool := (cut? piece s).isSome

def lineFeeds (s : Bytes) : Nat := s.count Byte.lf

/-- Decimal digits, most significant first. -/
def ofNat (n : Nat) : Bytes := (Nat.toDigits 10 n).map fun c => c.toNat.toUInt8

def ofInt : Int → Bytes
  | .ofNat n => ofNat n
  | .negSucc n => Byte.dash :: ofNat (n + 1)

/-- Lower-case hexadecimal digits, two for each byte. -/
def hex (s : Bytes) : Bytes := s.flatMap Byte.hex

def repeated (n : Nat) (s : Bytes) : Bytes := (List.replicate n s).flatten

end Bytes

end Graft
