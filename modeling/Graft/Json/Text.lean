import Graft.Json
import Graft.Text.Escaped

/-!
# Graft.Json.Text

The texts that the strings of a document stand for.

* `Json.Text.isSound`: whether the inside of a string keeps to the escapes there are.
* `Json.Text.decode`: what the inside of a string stands for.
* `Json.Text.webSafe`: the inside of a string that can stand in a web page.
* `Json.ofText`, `Json.ofWebText`: a text as a document.
-/

namespace Graft.Json

namespace Text

/-- One step of reading a string. -/
inductive Piece where
  | byte (b : UInt8)
  | unit (n : Nat)

def shortEscape (e : UInt8) : UInt8 :=
  if e = 0x62 then 0x08
  else if e = 0x66 then 0x0C
  else if e = 0x6E then 0x0A
  else if e = 0x72 then 0x0D
  else if e = 0x74 then 0x09
  else e

def hexNumber (hs : Bytes) : Nat :=
  hs.foldl (fun n h => n * 16 + ((Byte.hexValue? h).getD 0).toNat) 0

def pieces : Bytes → List Piece
  | c :: e :: rest =>
    if c = Byte.backslash then
      if e = 0x75 then
        match rest with
        | h₁ :: h₂ :: h₃ :: h₄ :: rest => .unit (hexNumber [h₁, h₂, h₃, h₄]) :: pieces rest
        | _ => []
      else .byte (shortEscape e) :: pieces rest
    else .byte c :: pieces (e :: rest)
  | [c] => [.byte c]
  | [] => []

def isHighSurrogate (n : Nat) : Bool := 0xD800 ≤ n && n < 0xDC00

def isLowSurrogate (n : Nat) : Bool := 0xDC00 ≤ n && n < 0xE000

/-- The bytes of the steps: two surrogates make one character, and one that stands alone becomes
U+FFFD. -/
def join : List Piece → Bytes
  | [] => []
  | .byte b :: rest => b :: join rest
  | .unit n :: .unit m :: rest =>
    if isHighSurrogate n && isLowSurrogate m then
      Utf8.encode (Char.ofNat (0x10000 + (n - 0xD800) * 0x400 + (m - 0xDC00))) ++ join rest
    else if isHighSurrogate n || isLowSurrogate n then
      Utf8.encode Utf8.replacement ++ join (.unit m :: rest)
    else Utf8.encode (Char.ofNat n) ++ join (.unit m :: rest)
  | .unit n :: rest =>
    (if isHighSurrogate n || isLowSurrogate n then Utf8.encode Utf8.replacement
      else Utf8.encode (Char.ofNat n)) ++ join rest

def decode (body : Bytes) : Bytes := join (pieces body)

def isSound (body : Bytes) : Bool :=
  (stringBody ⟨true, false⟩ (body ++ [Byte.quote])).isSome

def isWebSpecial (c : Char) : Bool :=
  c == '<' || c == '>' || c == '&' || c.toNat == 0x2028 || c.toNat == 0x2029

def unicodeEscape (n : Nat) : Bytes :=
  "\\u" ++ (Byte.hex (n / 256).toUInt8 ++ Byte.hex (n % 256).toUInt8)

/-- A byte of a string; backspace and form feed have short escapes here. -/
def webByte (c : UInt8) : Bytes :=
  if c = 0x08 then "\\b" else if c = Byte.ff then "\\f" else Escaped.byte c

def webSafe (s : Bytes) : Bytes :=
  (Utf8.pieces s).flatMap fun
    | .char c =>
      if isWebSpecial c then unicodeEscape c.toNat
      else (Utf8.encode c).flatMap webByte
    | .illFormed _ => "\\ufffd"

/-- The inside of a string as written, with the web characters escaped. -/
def secured (body : Bytes) : Bytes :=
  (Utf8.pieces body).flatMap fun
    | .char c => if isWebSpecial c then unicodeEscape c.toNat else Utf8.encode c
    | .illFormed b => [b]

end Text

def ofText (s : Bytes) : Json := .string (Escaped.plainBody s)

def ofWebText (s : Bytes) : Json := .string (Text.webSafe s)

mutual

/-- A document as written, with the web characters of its strings escaped. -/
def secured : Json → Json
  | .null => .null
  | .bool b => .bool b
  | .number text => .number text
  | .string body => .string (Text.secured body)
  | .array items => .array (securedItems items)
  | .object members => .object (securedMembers members)

def securedItems : List Json → List Json
  | [] => []
  | j :: rest => secured j :: securedItems rest

def securedMembers : List (Bytes × Json) → List (Bytes × Json)
  | [] => []
  | (key, j) :: rest => (Text.secured key, secured j) :: securedMembers rest

end

end Graft.Json
