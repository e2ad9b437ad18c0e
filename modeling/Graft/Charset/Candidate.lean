import Graft.Charset.CodePage
import Graft.Charset.Trigram

/-!
# Graft.Charset.Candidate

Guessing a charset of one byte per character from its language: the text is reduced to lower-case
letters with single blanks between them, and the share of its runs of three that are frequent in
the language is the measure.

* `Alphabet`: the letters of a charset.
* `Candidate`: a charset together with a language.
* `Candidate.confidence`: how well a text fits, from 0 to 99.
-/

namespace Graft.Charset

/-- Bytes from `first` to `last` are letters; `lower` is the lower case of the first of them. -/
structure LetterRange where
  first : UInt8
  last : UInt8
  lower : UInt8

structure Alphabet where
  page : CodePage
  letters : List LetterRange

namespace LetterRange

/-- Letters without a lower case of their own. -/
def plain (first last : UInt8) : LetterRange := ⟨first, last, first⟩

def lower? (r : LetterRange) (b : UInt8) : Option UInt8 :=
  if r.first ≤ b && b ≤ r.last then some (b - r.first + r.lower) else none

end LetterRange

namespace Alphabet

/-- A letter in lower case; any other byte is a border, except that an apostrophe does not divide
a word. -/
def reduce? (a : Alphabet) (b : UInt8) : Option Char :=
  if b = Byte.apostrophe then none
  else if Byte.isLetter b then some (a.page.char (Byte.lower b))
  else some <| (a.letters.findSome? (LetterRange.lower? · b)).elim ' ' a.page.char

open LetterRange (plain)

def western : Alphabet := ⟨.windows1252, [
  plain 0xAA 0xAA, plain 0xB5 0xB5, plain 0xBA 0xBA, ⟨0xC0, 0xD6, 0xE0⟩, ⟨0xD8, 0xDE, 0xF8⟩,
  plain 0xDF 0xF6, plain 0xF8 0xFF]⟩

def turkish : Alphabet := ⟨.windows1254, [
  plain 0xAA 0xAA, plain 0xB5 0xB5, plain 0xBA 0xBA, ⟨0xC0, 0xD6, 0xE0⟩, ⟨0xD8, 0xDC, 0xF8⟩,
  ⟨0xDD, 0xDD, 0x69⟩, ⟨0xDE, 0xDE, 0xFE⟩, plain 0xDF 0xF6, plain 0xF8 0xFF]⟩

def cyrillic : Alphabet := ⟨.iso88595, [
  ⟨0xA1, 0xAC, 0xF1⟩, ⟨0xAE, 0xAF, 0xFE⟩, ⟨0xB0, 0xCF, 0xD0⟩, plain 0xD0 0xEF, plain 0xF1 0xFC,
  plain 0xFE 0xFF]⟩

def cyrillicWindows : Alphabet := ⟨.windows1251, [
  ⟨0x80, 0x80, 0x90⟩, ⟨0x81, 0x81, 0x83⟩, plain 0x83 0x83, ⟨0x8A, 0x8A, 0x9A⟩,
  ⟨0x8C, 0x8F, 0x9C⟩, plain 0x90 0x90, plain 0x9A 0x9A, plain 0x9C 0x9F, ⟨0xA1, 0xA1, 0xA2⟩,
  plain 0xA2 0xA2, ⟨0xA3, 0xA3, 0xBC⟩, ⟨0xA5, 0xA5, 0xB4⟩, ⟨0xA8, 0xA8, 0xB8⟩,
  ⟨0xAA, 0xAA, 0xBA⟩, ⟨0xAF, 0xAF, 0xBF⟩, ⟨0xB2, 0xB2, 0xB3⟩, plain 0xB3 0xB5, plain 0xB8 0xB8,
  plain 0xBA 0xBA, plain 0xBC 0xBC, ⟨0xBD, 0xBD, 0xBE⟩, plain 0xBE 0xBF, ⟨0xC0, 0xDF, 0xE0⟩,
  plain 0xE0 0xFF]⟩

def cyrillicKoi : Alphabet := ⟨.koi8r, [
  plain 0xA3 0xA3, ⟨0xB3, 0xB3, 0xA3⟩, plain 0xC0 0xDF, ⟨0xE0, 0xFF, 0xC0⟩]⟩

def arabic : Alphabet := ⟨.iso88596, [plain 0xC1 0xDA, plain 0xE1 0xEA]⟩

def arabicWindows : Alphabet := ⟨.windows1256, [
  plain 0x81 0x81, plain 0x83 0x83, plain 0x88 0x88, plain 0x8A 0x8A, ⟨0x8C, 0x8C, 0x9C⟩,
  plain 0x8D 0x90, plain 0x98 0x98, plain 0x9A 0x9A, plain 0x9C 0x9C, plain 0x9F 0x9F,
  plain 0xAA 0xAA, plain 0xB5 0xB5, plain 0xC0 0xD6, plain 0xD8 0xFC, plain 0xFF 0xFF]⟩

def greek : Alphabet := ⟨.iso88597, [
  plain 0xA1 0xA2, ⟨0xB6, 0xB6, 0xDC⟩, ⟨0xB8, 0xBA, 0xDD⟩, ⟨0xBC, 0xBC, 0xFC⟩, ⟨0xBE, 0xBF, 0xFD⟩,
  plain 0xC0 0xC0, ⟨0xC1, 0xD1, 0xE1⟩, ⟨0xD3, 0xDB, 0xF3⟩, plain 0xDC 0xFE]⟩

def hebrew : Alphabet := ⟨.iso88598, [plain 0xB5 0xB5, plain 0xE0 0xFA]⟩

end Alphabet

/-- A charset and a language whose frequent runs of letters speak for it. -/
structure Candidate where
  name : String
  /-- The name when the text holds bytes of `0x80`–`0x9F`, which are controls in some charsets and
  characters in their extensions. -/
  extended : String
  alphabet : Alphabet
  frequent : List (List Char)

namespace Candidate

def squeeze : List Char → List Char
  | a :: b :: rest =>
    if a = ' ' ∧ b = ' ' then squeeze (b :: rest) else a :: squeeze (b :: rest)
  | short => short

def hits (frequent : List (List Char)) : List Char → Nat
  | a :: b :: c :: rest =>
    (if frequent.contains [a, b, c] then 1 else 0) + hits frequent (b :: c :: rest)
  | _ => 0

def confidence (c : Candidate) (s : Bytes) : Nat :=
  let letters := squeeze (s.filterMap c.alphabet.reduce? ++ [' '])
  let h := hits c.frequent letters
  let n := letters.length
  if 100 * h > 33 * n then 98 else 300 * h / n

def ofLanguage (name extended : String) (alphabet : Alphabet) (language : List String) :
    Candidate :=
  ⟨name, extended, alphabet, language.map String.toList⟩

def western : List Candidate :=
  [Trigram.english, Trigram.danish, Trigram.german, Trigram.spanish, Trigram.french,
    Trigram.italian, Trigram.dutch, Trigram.norwegian, Trigram.portuguese,
    Trigram.swedish].map (ofLanguage "iso-8859-1" "windows-1252" .western)

def others : List Candidate := [
  ofLanguage "iso-8859-5" "iso-8859-5" .cyrillic Trigram.russian,
  ofLanguage "iso-8859-6" "iso-8859-6" .arabic Trigram.arabic,
  ofLanguage "iso-8859-7" "windows-1253" .greek Trigram.greek,
  ofLanguage "iso-8859-8-i" "windows-1255" .hebrew Trigram.hebrew,
  ofLanguage "iso-8859-8" "windows-1255" .hebrew Trigram.visualHebrew,
  ofLanguage "windows-1251" "windows-1251" .cyrillicWindows Trigram.russian,
  ofLanguage "windows-1256" "windows-1256" .arabicWindows Trigram.arabic,
  ofLanguage "koi8-r" "koi8-r" .cyrillicKoi Trigram.russian,
  ofLanguage "iso-8859-9" "windows-1254" .turkish Trigram.turkish
]

end Candidate

end Graft.Charset
