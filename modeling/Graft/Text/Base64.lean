import Graft.Text.Bytes

/-!
# Graft.Text.Base64

Bytes written with 64 letters, four of them for three bytes. Line ends do not count.

* `Base64.digit?`: the value of a letter.
* `Base64.decode`: the bytes of a text, up to where it is malformed.
-/

namespace Graft.Base64

def digit? (c : UInt8) : Option Nat :=
  if Byte.isUpper c then some (c.toNat - 0x41)
  else if Byte.isLower c then some (c.toNat - 0x61 + 26)
  else if Byte.isDigit c then some (c.toNat - 0x30 + 52)
  else if c = Byte.plus then some 62
  else if c = Byte.slash then some 63
  else none

def group (count : Nat) (a b c d : Nat) : Bytes :=
  let n := ((a * 64 + b) * 64 + c) * 64 + d
  [(n / 65536).toUInt8, (n / 256).toUInt8, n.toUInt8].take count

/-- The bytes of letters in groups of four; the last group may be filled with equals signs. -/
def decodeLetters : Bytes → Bytes
  | a :: b :: c :: d :: rest =>
    match digit? a, digit? b, digit? c, digit? d with
    | some a, some b, some c, some d => group 3 a b c d ++ decodeLetters rest
    | some a, some b, some c, none => if d = Byte.eq then group 2 a b c 0 else []
    | some a, some b, none, none => if c = Byte.eq ∧ d = Byte.eq then group 1 a b 0 0 else []
    | _, _, _, _ => []
  | _ => []

def decode (s : Bytes) : Bytes := decodeLetters (s.filter fun c => c != Byte.lf && c != Byte.cr)

end Graft.Base64
