import Graft.Text.Bytes

/-!
# Graft.Charset.Sniff

Telling text from binary data by its first bytes: the signature of a binary format or a control
byte that no text holds makes data binary, a byte order mark makes it text.

* `Signature`: bytes that stand at fixed places of a format.
* `signatures`: the formats that could pass for text. A format whose first bytes hold a control
  byte is binary without an entry here.
* `isText`: whether data looks like text.
-/

namespace Graft.Charset

structure Signature where
  atLeast : Nat
  marks : List (Nat × Bytes)

namespace Signature

def head (mark : Bytes) : Signature := ⟨0, [(0, mark)]⟩

def behind (offset : Nat) (mark : Bytes) : Signature := ⟨0, [(offset, mark)]⟩

/-- A word at the head, and one more behind the length of a container; something follows both. -/
def container (kind content : Bytes) : Signature :=
  ⟨9 + content.length, [(0, kind), (8, content)]⟩

def isOn (data : Bytes) (s : Signature) : Bool :=
  s.atLeast ≤ data.length && s.marks.all fun (offset, mark) => mark.isPrefixOf (data.drop offset)

end Signature

open Signature (head behind container)

def wordSignatures : List Signature := [
  head "/* XPM */", head "%PDF-", head "\n%PDF-", head "\uFEFF%PDF-", head "%FDF",
  head "%!PS-Adobe-", head "8BPS", head "-----BEGIN PKCS7", head "GIF87a", head "GIF89a",
  head "MZ", head "!<arch>", head "xar!", head "BZh",
  head "SIMPLE  =                    T", head "BM", head "ID3", head "MThd", head "MPCK",
  head "#!AMR", head ".snd", head "Creative Voice File", head "#EXTM3U", head ".RMF",
  head "CWS", head "FWS", head "ZWS", head "wOFF", head "wOF2", head "ITOLITLS", head "icns",
  head "#?RADIANCE\n", head "LZIP", head "d8:announce", head "070701", head "070702",
  head "070707", head "gimp xcf", head "PAR1"
]

def drawingVersions : List Bytes := [
  "1.40", "1.50", "2.10", "1002", "1003", "1004", "1006", "1009", "1012", "1014", "1015", "1018",
  "1021", "1024", "1032"
]

def byteSignatures : List Signature := [
  head [0xFF, 0xD8, 0xFF], head [0xFF, 0x0A], head [0x7F, 0x45, 0x4C, 0x46],
  head [0xFF, 0xF1], head [0xFF, 0xF9],
  head [0x42, 0x50, 0x47, 0xFB], head [0xD9, 0xD9, 0xF7], head [0xED, 0xAB, 0xEE, 0xDB],
  head [0xFE, 0xED, 0xFA, 0xCE], head [0xCE, 0xFA, 0xED, 0xFE],
  head [0xFE, 0xED, 0xFA, 0xCF], head [0xCF, 0xFA, 0xED, 0xFE]
]

def frameBytes : List UInt8 := [0x22, 0x23, 0x24, 0x25, 0x26, 0x27, 0x28]

/-- The first two bytes of sound without a tag; a third byte follows. -/
def soundMarks : List Bytes := [
  [0xFF, 0xFA], [0xFF, 0xFB], [0xFF, 0xF2], [0xFF, 0xF3], [0xFF, 0xE2], [0xFF, 0xE3]
]

def containerSignatures : List Signature := [
  container "RIFF" "WEBP", container "RIFF" "WAVE", container "RIFF" "QLCM",
  container "RIFF" "AVI LIST", container "FORM" "AIFF"
]

def pageKinds : List Bytes := ["DJVM", "DJVU", "DJVI", "THUM"]

/-- Picture formats with a box of a name first and their kind in the next one. -/
def boxedPictures : List Signature :=
  (["jP  ", "jP2 "] : List Bytes).flatMap fun box =>
    (["jp2 ", "jpx ", "jpm "] : List Bytes).map fun kind => ⟨24, [(4, box), (20, kind)]⟩

/-- Film formats: the name of the first part stands behind its length. -/
def filmSignatures : List Signature :=
  (["moov\x00", "mdat\x00", "free\x00", "skip\x00", "pnot\x00"] : List Bytes).map
      (fun part => ⟨12, [(4, part)]⟩) ++
    [⟨12, [(0, [0x00]), (4, "ftyp")]⟩]

def fontSignatures : List Signature :=
  ([[0x02, 0x00, 0x01], [0x01, 0x00, 0x00], [0x02, 0x00, 0x02]] : List Bytes).map fun version =>
    ⟨36, [(34, "LP"), (8, version)]⟩

def signatures : List Signature :=
  wordSignatures ++ byteSignatures ++
    drawingVersions.map (fun version => head ("AC" ++ version)) ++
    frameBytes.map (fun b => head [b, 0xB5, 0x2F, 0xFD]) ++
    soundMarks.map (fun mark => ⟨3, [(0, mark)]⟩) ++
    containerSignatures ++
    pageKinds.map (fun kind => ⟨12, [(0, "AT&TFORM"), (12, kind)]⟩) ++
    boxedPictures ++ filmSignatures ++ fontSignatures ++
    [behind 128 "DICM", behind 60 "BOOKMOBI", behind 4 "Standard Jet DB",
      behind 4 "Standard ACE DB", behind 20 "GPAT", behind 20 "GIMP"]

/-- A program for a virtual machine, or one for several real ones: the first four bytes are the
same, and the eighth tells them from anything else. -/
def isMachineCode (data : Bytes) : Bool :=
  let kind := data.getD 7 0
  8 ≤ data.length && data.take 4 == [0xCA, 0xFE, 0xBA, 0xBE] && (30 < kind || kind < 20)

def isZoneTable (data : Bytes) : Bool :=
  44 ≤ data.length && (Bytes.ofString "TZif").isPrefixOf data &&
    [0x00, 0x32, 0x33].contains (data.getD 4 0) && ((data.drop 36).take 4).any (· != 0)

def archiveSum (value : UInt8 → Int) (header : Bytes) : Int :=
  let shown := header.take 148 ++ List.replicate 8 Byte.space ++ header.drop 156
  shown.foldl (fun n c => n + value c) 0

def octal? (s : Bytes) : Option Int :=
  let digits := s.takeWhile (· != 0)
  if digits.all fun c => 0x30 ≤ c && c ≤ 0x37 then
    some (digits.foldl (fun n c => n * 8 + (c.toNat - 0x30 : Nat)) (0 : Int))
  else none

/-- An archive of files: its header holds the sum of its own bytes, signed or not. -/
def isArchive (data : Bytes) : Bool :=
  let header := data.take 512
  let isBlank (c : UInt8) := c == Byte.space || c == 0
  let field := (((header.drop 148).take 8).dropWhile isBlank).reverse.dropWhile isBlank
  let isPackage := Bytes.containsPiece "/gpkg-1\x00" (header.take 100)
  512 ≤ data.length && !isPackage && !field.isEmpty &&
    match octal? field.reverse with
    | some sum =>
      sum == archiveSum (fun c => c.toNat) header || sum == archiveSum (fun c => c.toInt8.toInt) header
    | none => false

def isBinaryFormat (data : Bytes) : Bool :=
  signatures.any (Signature.isOn data) || isMachineCode data || isZoneTable data || isArchive data

def byteOrderMarks : List Bytes := [[0xEF, 0xBB, 0xBF], [0xFE, 0xFF], [0xFF, 0xFE],
  [0x00, 0x00, 0xFE, 0xFF]]

def isBinaryByte (c : UInt8) : Bool :=
  c ≤ 0x08 || c == 0x0B || (0x0E ≤ c && c ≤ 0x1A) || (0x1C ≤ c && c ≤ 0x1F)

def sniffLength : Nat := 3072

def isText (data : Bytes) : Bool :=
  let data := data.take sniffLength
  if isBinaryFormat data then false
  else byteOrderMarks.any (fun mark => mark.isPrefixOf data) || !data.any isBinaryByte

end Graft.Charset
