import Graft.Text.Bytes

/-!
# Graft.Charset.DoubleByte

Guessing a charset that writes most characters in two bytes: the text must divide into characters
of the charset, and the frequent ones among them speak for it.

* `Glyph`: one character of such a text, as far as its length tells.
* `DoubleByte`: how a charset divides a text, and its frequent characters.
* `DoubleByte.confidence`: how well a text fits, from 0 to 100.
-/

namespace Graft.Charset

/-- One character of a text in a charset of several bytes per character. -/
inductive Glyph where
  | single
  | double (code : Nat)
  | bad
deriving DecidableEq, Repr

/-- A charset of several bytes per character. -/
structure DoubleByte where
  name : String
  next : UInt8 → Bytes → Glyph × Nat
  frequent : List Nat

namespace DoubleByte

/-- The characters of a text whose first `skip` bytes belong to one already read. -/
def unitsFrom (c : DoubleByte) : Nat → Bytes → List Glyph
  | _, [] => []
  | skip + 1, _ :: rest => unitsFrom c skip rest
  | 0, b :: rest =>
    let (unit, n) := c.next b rest
    unit :: unitsFrom c n rest

/-- What the characters of a text amount to. -/
structure Tally where
  total : Nat := 0
  bad : Nat := 0
  double : Nat := 0
  frequent : Nat := 0

def Tally.add (c : DoubleByte) (t : Tally) : Glyph → Tally
  | .single => { t with total := t.total + 1 }
  | .bad => { t with total := t.total + 1, bad := t.bad + 1 }
  | .double code =>
    { t with
      total := t.total + 1
      double := t.double + 1
      frequent := if c.frequent.contains code then t.frequent + 1 else t.frequent }

def Tally.isHopeless (t : Tally) : Bool := 2 ≤ t.bad && t.double ≤ t.bad * 5

/-- The tally of some characters, unless it becomes hopeless on the way. -/
def tally? (c : DoubleByte) : Tally → List Glyph → Option Tally
  | t, [] => some t
  | t, u :: rest => let t := t.add c u; if t.isHopeless then none else tally? c t rest

def Tally.confidence (t : Tally) : Nat :=
  if t.double ≤ 10 && t.bad == 0 then (if t.double == 0 && t.total < 10 then 0 else 10)
  else if t.double < 20 * t.bad then 0
  else
    let scale := 90 / Float.log (Float.ofNat t.double / 4)
    min 100 (Float.log (Float.ofNat t.frequent + 1) * scale + 10).toUInt64.toNat

def confidence (c : DoubleByte) (s : Bytes) : Nat :=
  ((tally? c {} (unitsFrom c 0 s).dropLast).map Tally.confidence).getD 0

def pair (suits : UInt8 → Bool) (first : UInt8) : Bytes → Glyph × Nat
  | [] => (.bad, 0)
  | second :: _ =>
    (if suits second then .double (first.toNat * 256 + second.toNat) else .bad, 1)

def frequentShiftJis : List Nat := [
  0x8140, 0x8141, 0x8142, 0x8145, 0x815B, 0x8169, 0x816A, 0x8175, 0x8176, 0x82A0, 0x82A2, 0x82A4,
  0x82A9, 0x82AA, 0x82AB, 0x82AD, 0x82AF, 0x82B1, 0x82B3, 0x82B5, 0x82B7, 0x82BD, 0x82BE, 0x82C1,
  0x82C4, 0x82C5, 0x82C6, 0x82C8, 0x82C9, 0x82CC, 0x82CD, 0x82DC, 0x82E0, 0x82E7, 0x82E8, 0x82E9,
  0x82EA, 0x82F0, 0x82F1, 0x8341, 0x8343, 0x834E, 0x834F, 0x8358, 0x835E, 0x8362, 0x8367, 0x8375,
  0x8376, 0x8389, 0x838A, 0x838B, 0x838D, 0x8393, 0x8E96, 0x93FA, 0x95AA
]

def shiftJis : DoubleByte where
  name := "shift_jis"
  next first rest :=
    if first ≤ 0x7F || (0xA0 < first && first ≤ 0xDF) then (.single, 0)
    else pair (fun second => 0x40 ≤ second && second ≤ 0xFE) first rest
  frequent := frequentShiftJis

/-- The characters of the extended Unix codes: two bytes from `0xA1` on, or three behind `0x8F`. -/
def nextExtended (first : UInt8) (rest : Bytes) : Glyph × Nat :=
  if first ≤ 0x8D then (.single, 0)
  else if 0xA1 ≤ first && first ≤ 0xFE || first == 0x8E then
    pair (fun second => 0xA1 ≤ second) first rest
  else if first == 0x8F then
    match rest with
    | second :: third :: _ =>
      (if 0xA1 ≤ third then .double (first.toNat * 256 + (second ||| third).toNat) else .bad, 2)
    | _ => (.bad, rest.length)
  else pair (fun _ => true) first rest

def frequentEucJp : List Nat := [
  0xA1A1, 0xA1A2, 0xA1A3, 0xA1A6, 0xA1BC, 0xA1CA, 0xA1CB, 0xA1D6, 0xA1D7, 0xA4A2, 0xA4A4, 0xA4A6,
  0xA4A8, 0xA4AA, 0xA4AB, 0xA4AC, 0xA4AD, 0xA4AF, 0xA4B1, 0xA4B3, 0xA4B5, 0xA4B7, 0xA4B9, 0xA4BB,
  0xA4BD, 0xA4BF, 0xA4C0, 0xA4C1, 0xA4C3, 0xA4C4, 0xA4C6, 0xA4C7, 0xA4C8, 0xA4C9, 0xA4CA, 0xA4CB,
  0xA4CE, 0xA4CF, 0xA4D0, 0xA4DE, 0xA4DF, 0xA4E1, 0xA4E2, 0xA4E4, 0xA4E8, 0xA4E9, 0xA4EA, 0xA4EB,
  0xA4EC, 0xA4EF, 0xA4F2, 0xA4F3, 0xA5A2, 0xA5A3, 0xA5A4, 0xA5A6, 0xA5A7, 0xA5AA, 0xA5AD, 0xA5AF,
  0xA5B0, 0xA5B3, 0xA5B5, 0xA5B7, 0xA5B8, 0xA5B9, 0xA5BF, 0xA5C3, 0xA5C6, 0xA5C7, 0xA5C8, 0xA5C9,
  0xA5CB, 0xA5D0, 0xA5D5, 0xA5D6, 0xA5D7, 0xA5DE, 0xA5E0, 0xA5E1, 0xA5E5, 0xA5E9, 0xA5EA, 0xA5EB,
  0xA5EC, 0xA5ED, 0xA5F3, 0xB8A9, 0xB9D4, 0xBAEE, 0xBBC8, 0xBEF0, 0xBFB7, 0xC4EA, 0xC6FC, 0xC7BD,
  0xCAB8, 0xCAF3, 0xCBDC, 0xCDD1
]

def eucJp : DoubleByte := ⟨"euc-jp", nextExtended, frequentEucJp⟩

def frequentEucKr : List Nat := [
  0xB0A1, 0xB0B3, 0xB0C5, 0xB0CD, 0xB0D4, 0xB0E6, 0xB0ED, 0xB0F8, 0xB0FA, 0xB0FC, 0xB1B8, 0xB1B9,
  0xB1C7, 0xB1D7, 0xB1E2, 0xB3AA, 0xB3BB, 0xB4C2, 0xB4CF, 0xB4D9, 0xB4EB, 0xB5A5, 0xB5B5, 0xB5BF,
  0xB5C7, 0xB5E9, 0xB6F3, 0xB7AF, 0xB7C2, 0xB7CE, 0xB8A6, 0xB8AE, 0xB8B6, 0xB8B8, 0xB8BB, 0xB8E9,
  0xB9AB, 0xB9AE, 0xB9CC, 0xB9CE, 0xB9FD, 0xBAB8, 0xBACE, 0xBAD0, 0xBAF1, 0xBBE7, 0xBBF3, 0xBBFD,
  0xBCAD, 0xBCBA, 0xBCD2, 0xBCF6, 0xBDBA, 0xBDC0, 0xBDC3, 0xBDC5, 0xBEC6, 0xBEC8, 0xBEDF, 0xBEEE,
  0xBEF8, 0xBEFA, 0xBFA1, 0xBFA9, 0xBFC0, 0xBFE4, 0xBFEB, 0xBFEC, 0xBFF8, 0xC0A7, 0xC0AF, 0xC0B8,
  0xC0BA, 0xC0BB, 0xC0BD, 0xC0C7, 0xC0CC, 0xC0CE, 0xC0CF, 0xC0D6, 0xC0DA, 0xC0E5, 0xC0FB, 0xC0FC,
  0xC1A4, 0xC1A6, 0xC1B6, 0xC1D6, 0xC1DF, 0xC1F6, 0xC1F8, 0xC4A1, 0xC5CD, 0xC6AE, 0xC7CF, 0xC7D1,
  0xC7D2, 0xC7D8, 0xC7E5, 0xC8AD
]

def eucKr : DoubleByte := ⟨"euc-kr", nextExtended, frequentEucKr⟩

def frequentBig5 : List Nat := [
  0xA140, 0xA141, 0xA142, 0xA143, 0xA147, 0xA149, 0xA175, 0xA176, 0xA440, 0xA446, 0xA447, 0xA448,
  0xA451, 0xA454, 0xA457, 0xA464, 0xA46A, 0xA46C, 0xA477, 0xA4A3, 0xA4A4, 0xA4A7, 0xA4C1, 0xA4CE,
  0xA4D1, 0xA4DF, 0xA4E8, 0xA4FD, 0xA540, 0xA548, 0xA558, 0xA569, 0xA5CD, 0xA5E7, 0xA657, 0xA661,
  0xA662, 0xA668, 0xA670, 0xA6A8, 0xA6B3, 0xA6B9, 0xA6D3, 0xA6DB, 0xA6E6, 0xA6F2, 0xA740, 0xA751,
  0xA759, 0xA7DA, 0xA8A3, 0xA8A5, 0xA8AD, 0xA8D1, 0xA8D3, 0xA8E4, 0xA8FC, 0xA9C0, 0xA9D2, 0xA9F3,
  0xAA6B, 0xAABA, 0xAABE, 0xAACC, 0xAAFC, 0xAC47, 0xAC4F, 0xACB0, 0xACD2, 0xAD59, 0xAEC9, 0xAFE0,
  0xB0EA, 0xB16F, 0xB2B3, 0xB2C4, 0xB36F, 0xB44C, 0xB44E, 0xB54C, 0xB5A5, 0xB5BD, 0xB5D0, 0xB5D8,
  0xB671, 0xB7ED, 0xB867, 0xB944, 0xBAD8, 0xBB44, 0xBBA1, 0xBDD1, 0xC2C4, 0xC3B9, 0xC440, 0xC45F
]

def big5 : DoubleByte where
  name := "big5"
  next first rest :=
    if first ≤ 0x7F || first == 0xFF then (.single, 0)
    else pair (fun second => 0x40 ≤ second && second != 0x7F && second != 0xFF) first rest
  frequent := frequentBig5

def frequentGb18030 : List Nat := [
  0xA1A1, 0xA1A2, 0xA1A3, 0xA1A4, 0xA1B0, 0xA1B1, 0xA1F1, 0xA1F3, 0xA3A1, 0xA3AC, 0xA3BA, 0xB1A8,
  0xB1B8, 0xB1BE, 0xB2BB, 0xB3C9, 0xB3F6, 0xB4F3, 0xB5BD, 0xB5C4, 0xB5E3, 0xB6AF, 0xB6D4, 0xB6E0,
  0xB7A2, 0xB7A8, 0xB7BD, 0xB7D6, 0xB7DD, 0xB8B4, 0xB8DF, 0xB8F6, 0xB9AB, 0xB9C9, 0xB9D8, 0xB9FA,
  0xB9FD, 0xBACD, 0xBBA7, 0xBBD6, 0xBBE1, 0xBBFA, 0xBCBC, 0xBCDB, 0xBCFE, 0xBDCC, 0xBECD, 0xBEDD,
  0xBFB4, 0xBFC6, 0xBFC9, 0xC0B4, 0xC0ED, 0xC1CB, 0xC2DB, 0xC3C7, 0xC4DC, 0xC4EA, 0xC5CC, 0xC6F7,
  0xC7F8, 0xC8AB, 0xC8CB, 0xC8D5, 0xC8E7, 0xC9CF, 0xC9FA, 0xCAB1, 0xCAB5, 0xCAC7, 0xCAD0, 0xCAD6,
  0xCAF5, 0xCAFD, 0xCCEC, 0xCDF8, 0xCEAA, 0xCEC4, 0xCED2, 0xCEE5, 0xCFB5, 0xCFC2, 0xCFD6, 0xD0C2,
  0xD0C5, 0xD0D0, 0xD0D4, 0xD1A7, 0xD2AA, 0xD2B2, 0xD2B5, 0xD2BB, 0xD2D4, 0xD3C3, 0xD3D0, 0xD3FD,
  0xD4C2, 0xD4DA, 0xD5E2, 0xD6D0
]

def nextGb18030 (first : UInt8) (rest : Bytes) : Glyph × Nat :=
  if first ≤ 0x80 then (.single, 0)
  else if first == 0xFF then pair (fun _ => true) first rest
  else
    match rest with
    | [] => (.bad, 0)
    | second :: rest =>
      if 0x40 ≤ second && second ≤ 0x7E || 0x80 ≤ second && second ≤ 0xFE then
        (.double (first.toNat * 256 + second.toNat), 1)
      else if 0x30 ≤ second && second ≤ 0x39 then
        match rest with
        | [] => (.bad, 1)
        | third :: rest =>
          if 0x81 ≤ third && third ≤ 0xFE then
            match rest with
            | [] => (.bad, 2)
            | fourth :: _ =>
              (if 0x30 ≤ fourth && fourth ≤ 0x39 then .double (third.toNat * 256 + fourth.toNat)
                else .bad, 3)
          else (.bad, 2)
      else (.bad, 1)

def gb18030 : DoubleByte := ⟨"gb-18030", nextGb18030, frequentGb18030⟩

def all : List DoubleByte := [shiftJis, gb18030, eucJp, eucKr, big5]

end DoubleByte

end Graft.Charset
