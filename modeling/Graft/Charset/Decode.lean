import Graft.Charset.Detect
import Graft.Charset.MultiByte

/-!
# Graft.Charset.Decode

Turning a text in any known charset into UTF-8.

* `decoder?`: the decoder of a charset; some charsets that can be told have none.
* `Detector.decode`: a text as UTF-8, by the charset it is taken to be written in.
-/

namespace Graft.Charset

def subpart : Bytes → Nat
  | a :: b :: rest =>
    let (lo, hi) := Utf8.secondRange a
    if a < 0xC2 || 0xF4 < a || b < lo || hi < b || a < 0xE0 then 1
    else
      match rest with
      | c :: _ => if Utf8.isContinuation c && 0xF0 ≤ a then 3 else 2
      | [] => 2
  | _ => 1

/-- The characters of a text, with one U+FFFD for each start of a character that breaks off; the
first `skip` bytes belong to a character already read. -/
def utf8Chars : Nat → Bytes → List Char
  | _, [] => []
  | skip + 1, _ :: rest => utf8Chars skip rest
  | 0, b :: rest =>
    match Utf8.head? (b :: rest) with
    | some (c, n) => c :: utf8Chars (n - 1) rest
    | none => Utf8.replacement :: utf8Chars (subpart (b :: rest) - 1) rest

/-- The character that two surrogates make; U+FFFD stands for a pair in the wrong order. -/
def surrogatePair (a b : Nat) : Char :=
  if a < 0xDC00 then Char.ofNat (0x10000 + (a - 0xD800) * 0x400 + (b - 0xDC00))
  else Utf8.replacement

/-- The characters of UTF-16 units. A surrogate takes a low one behind it along; one that stands
alone becomes U+FFFD. -/
def utf16Chars : List Nat → List Char
  | [] => []
  | a :: rest =>
    if 0xD800 ≤ a ∧ a < 0xE000 then
      match rest with
      | b :: rest' =>
        if 0xDC00 ≤ b ∧ b < 0xE000 then surrogatePair a b :: utf16Chars rest'
        else Utf8.replacement :: utf16Chars (b :: rest')
      | [] => [Utf8.replacement]
    else Char.ofNat a :: utf16Chars rest

/-- The text of UTF-16 units; a byte left over at the end becomes U+FFFD. -/
def utf16 (unit : UInt8 → UInt8 → Nat) (s : Bytes) : Bytes :=
  let rec units : Bytes → List Nat
    | a :: b :: rest => unit a b :: units rest
    | [_] => [Utf8.replacement.toNat]
    | [] => []
  Utf8.encodeAll (utf16Chars (units s))

/-- A text in a charset that is not read for safety: one U+FFFD stands for all of it. -/
def withheld (_ : Bytes) : Bytes := Utf8.encode Utf8.replacement

def decoder? (charset : String) : Option (Bytes → Bytes) :=
  match charset with
  | "utf-8" => some fun s => Utf8.encodeAll (utf8Chars 0 s)
  | "utf-16be" => some (utf16 fun a b => a.toNat * 256 + b.toNat)
  | "utf-16le" => some (utf16 fun a b => b.toNat * 256 + a.toNat)
  | "iso-8859-1" | "windows-1252" => some CodePage.windows1252.decode
  | "iso-8859-5" => some CodePage.iso88595.decode
  | "iso-8859-6" => some CodePage.iso88596.decode
  | "iso-8859-7" => some CodePage.iso88597.decode
  | "iso-8859-8" | "iso-8859-8-i" => some CodePage.iso88598.decode
  | "iso-8859-9" | "windows-1254" => some CodePage.windows1254.decode
  | "windows-1251" => some CodePage.windows1251.decode
  | "windows-1253" => some CodePage.windows1253.decode
  | "windows-1255" => some CodePage.windows1255.decode
  | "windows-1256" => some CodePage.windows1256.decode
  | "koi8-r" => some CodePage.koi8r.decode
  | "shift_jis" => some (MultiByte.decode MultiByte.shiftJis)
  | "euc-jp" => some (MultiByte.decode MultiByte.eucJp)
  | "euc-kr" => some (MultiByte.decode MultiByte.eucKr)
  | "big5" => some (MultiByte.decode MultiByte.big5)
  | "iso-2022-jp" => some MultiByte.iso2022Jp
  | "iso-2022-kr" | "iso-2022-cn" => some withheld
  | _ => none

def decodeAs (charset : String) (s : Bytes) : Bytes :=
  match decoder? charset with
  | some decoder => decoder s
  | none => s

def Detector.decode (D : Detector) (s : Bytes) : Bytes :=
  if Utf8.isValid s then s else decodeAs (D.detect s) s

def decode (s : Bytes) : Bytes := Detector.listed.decode s

end Graft.Charset
