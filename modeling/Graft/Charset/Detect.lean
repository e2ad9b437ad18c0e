import Graft.Charset.Candidate
import Graft.Charset.DoubleByte

/-!
# Graft.Charset.Detect

Guessing the charset of a text. Every known charset measures how well the text fits, and the best
measure wins; a text that fits none is taken for UTF-8. The charsets measure side by side, so of
several best measures the first to arrive wins.

* `measures`: every charset with its confidence.
* `Detector`: the measures of a text in an order they may arrive in.
* `Detector.detect`: the name of the charset that wins.
-/

namespace Graft.Charset

/-- How many characters of a text fit a charset, and how many do not. -/
structure Fit where
  valid : Nat := 0
  invalid : Nat := 0

namespace Fit

/-- The confidence a fit gives; a byte order mark speaks for the charset. -/
def confidence (f : Fit) (marked : Bool) : Nat :=
  if marked && f.invalid == 0 then 100
  else if marked && f.invalid * 10 < f.valid then 80
  else if 3 < f.valid && f.invalid == 0 then 100
  else if 0 < f.valid && f.invalid == 0 then 80
  else if f.invalid * 10 < f.valid then 25
  else 0

end Fit

/-! ## Unicode -/

/-- Where a scan for UTF-8 stands: before a character, or in one that expects more bytes. -/
inductive Utf8State where
  | start
  | within (expected : UInt8)

/-- The bytes that the first byte of a character announces. -/
def announced? (b : UInt8) : Option UInt8 :=
  if b &&& 0xE0 == 0xC0 then some 1
  else if b &&& 0xF0 == 0xE0 then some 2
  else if b &&& 0xF8 == 0xF0 then some 3
  else none

/-- Counts characters that look like UTF-8. A byte that starts no character takes the bytes that
continue one with it, and a byte that breaks a character off is passed over; the scan ends once
more than five bytes start no character. -/
def utf8Fit : Utf8State → Fit → Bytes → Fit
  | _, f, [] => f
  | .start, f, b :: rest =>
    if b < 0x80 then utf8Fit .start f rest
    else
      match announced? b with
      | some n => utf8Fit (.within n) f rest
      | none =>
        let f := { f with invalid := f.invalid + 1 }
        if 5 < f.invalid then f else utf8Fit (.within 0) f rest
  | .within n, f, b :: rest =>
    if b &&& 0xC0 != 0x80 then utf8Fit .start { f with invalid := f.invalid + 1 } rest
    -- with none announced the subtraction wraps around, so the run goes on
    else if n - 1 == 0 then utf8Fit .start { f with valid := f.valid + 1 } rest
    else utf8Fit (.within (n - 1)) f rest

def utf8Mark : Bytes := [0xEF, 0xBB, 0xBF]

/-- Plain ASCII may be UTF-8, with little confidence. -/
def utf8Confidence (s : Bytes) : Nat :=
  let f := utf8Fit .start {} s
  let marked := utf8Mark.isPrefixOf s
  if !marked && f.valid == 0 && f.invalid == 0 then 10 else f.confidence marked

def utf16beConfidence (s : Bytes) : Nat := if [0xFE, 0xFF].isPrefixOf s then 100 else 0

def utf16leConfidence (s : Bytes) : Nat :=
  if [0xFF, 0xFE].isPrefixOf s && !([0xFF, 0xFE, 0x00, 0x00].isPrefixOf s) then 100 else 0

def utf32Fit (char : UInt8 → UInt8 → UInt8 → UInt8 → Nat) : Fit → Bytes → Fit
  | f, a :: b :: c :: d :: rest =>
    let n := char a b c d
    let fits := n < 0x10FFFF && !(0xD800 ≤ n && n ≤ 0xDFFF)
    utf32Fit char
      (if fits then { f with valid := f.valid + 1 } else { f with invalid := f.invalid + 1 }) rest
  | f, _ => f

def bigEndian (a b c d : UInt8) : Nat :=
  a.toNat * 16777216 + b.toNat * 65536 + c.toNat * 256 + d.toNat

def utf32beConfidence (s : Bytes) : Nat :=
  (utf32Fit bigEndian {} s).confidence ([0x00, 0x00, 0xFE, 0xFF].isPrefixOf s)

def utf32leConfidence (s : Bytes) : Nat :=
  (utf32Fit (fun a b c d => bigEndian d c b a) {} s).confidence
    ([0xFF, 0xFE, 0x00, 0x00].isPrefixOf s)

/-! ## Charsets that switch by escape sequences -/

/-- What stands behind the escape byte in the Japanese variant. -/
def japaneseEscapes : List String :=
  ["$(C", "$(D", "$@", "$A", "$B", "&@", "(B", "(H", "(I", "(J", ".A", ".F"]

def koreanEscapes : List String := ["$)C"]

def chineseEscapes : List String :=
  ["$)A", "$)G", "$*H", "$)E", "$+I", "$+J", "$+K", "$+L", "$+M", "N", "O"]

/-- Known and unknown escape sequences of a text, and its shifts between two character sets. -/
structure Switches where
  known : Nat := 0
  unknown : Nat := 0
  shifts : Nat := 0

/-- The switches of a text whose first `skip` bytes belong to a sequence already seen. -/
def switches (escapes : List Bytes) : Nat → Switches → Bytes → Switches
  | _, t, [] => t
  | skip + 1, t, _ :: rest => switches escapes skip t rest
  | 0, t, b :: rest =>
    if b = 0x1B then
      match escapes.find? (fun e => e.isPrefixOf rest) with
      | some e => switches escapes e.length { t with known := t.known + 1 } rest
      | none => switches escapes 0 { t with unknown := t.unknown + 1 } rest
    else if b = 0x0E ∨ b = 0x0F then switches escapes 0 { t with shifts := t.shifts + 1 } rest
    else switches escapes 0 t rest

/-- The share by which known sequences outweigh unknown ones; fewer than five switches are weak
evidence. -/
def switchConfidence (escapes : List String) (s : Bytes) : Nat :=
  let t := switches (escapes.map Bytes.ofString) 0 {} s
  if t.known = 0 then 0
  else
    (100 * t.known - 100 * t.unknown) / (t.known + t.unknown) - (5 - (t.known + t.shifts)) * 10

/-! ## All charsets -/

def measures (s : Bytes) : List (String × Nat) :=
  let extended := s.any (fun b => 0x80 ≤ b && b ≤ 0x9F)
  let single (c : Candidate) := (if extended then c.extended else c.name, c.confidence s)
  [("utf-8", utf8Confidence s), ("utf-16be", utf16beConfidence s),
    ("utf-16le", utf16leConfidence s), ("utf-32be", utf32beConfidence s),
    ("utf-32le", utf32leConfidence s)] ++
  Candidate.western.map single ++ Candidate.others.map single ++
  DoubleByte.all.map (fun c => (c.name, c.confidence s)) ++
  [("iso-2022-jp", switchConfidence japaneseEscapes s),
    ("iso-2022-kr", switchConfidence koreanEscapes s),
    ("iso-2022-cn", switchConfidence chineseEscapes s)]

/-- A measure has to be higher to displace one that came before. -/
def better (best m : String × Nat) : String × Nat := if best.2 < m.2 then m else best

/-- The charset of the highest measure, and of several the first to arrive. -/
def winner (arrived : List (String × Nat)) : String :=
  (arrived.foldl better ("utf-8", 0)).1

/-- The order in which the measures of each text arrive. -/
structure Detector where
  arrived : Bytes → List (String × Nat)
  complete : ∀ s, (arrived s).Perm (measures s)

namespace Detector

def detect (D : Detector) (s : Bytes) : String := winner (D.arrived s)

def listed : Detector := ⟨measures, fun _ => .refl _⟩

end Detector

def detect (s : Bytes) : String := Detector.listed.detect s

end Graft.Charset
