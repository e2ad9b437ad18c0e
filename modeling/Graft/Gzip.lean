import Graft.Gzip.Deflate

/-!
# Graft.Gzip

Compressed files: members with a header, deflated data, a checksum and a length.

* `Gzip.crc`: the checksum.
* `Gzip.compress`: data as a file.
* `Gzip.expand?`: the data of a file; a file that is damaged or cut off is refused.
-/

namespace Graft.Gzip

def crcBit (c : UInt32) : UInt32 := if c &&& 1 == 1 then (c >>> 1) ^^^ 0xEDB88320 else c >>> 1

def crcByte (c : UInt32) (b : UInt8) : UInt32 :=
  let c := c ^^^ b.toUInt32
  crcBit (crcBit (crcBit (crcBit (crcBit (crcBit (crcBit (crcBit c)))))))

def crc (s : Bytes) : UInt32 := s.foldl crcByte 0xFFFFFFFF ^^^ 0xFFFFFFFF

def quad (n : Nat) : Bytes := Deflate.pair (n % 65536) ++ Deflate.pair (n / 65536 % 65536)

def magic : Bytes := [0x1F, 0x8B]

/-- A header without a time and without a name. -/
def header : Bytes := magic ++ [0x08, 0x00, 0x00, 0x00, 0x00, 0x00, 0x00, 0xFF]

def compress (s : Bytes) : Bytes :=
  header ++ Deflate.stored s ++ quad (crc s).toNat ++ quad s.length

/-- The longest text in a header, with the zero byte that ends it. -/
def textLimit : Nat := 512

def afterText? (s : Bytes) : Option Bytes :=
  match s.dropWhile (· != 0) with
  | [] => none
  | _ :: rest => if textLimit < s.length - rest.length then none else some rest

/-- What follows a field of bytes with its length in front. -/
def afterField? : Bytes → Option Bytes
  | a :: b :: rest =>
    let n := a.toNat + b.toNat * 256
    if rest.length < n then none else some (rest.drop n)
  | _ => none

/-- What follows the header of a member. The high three flags have no meaning and must be off. -/
def afterHeader? (s : Bytes) : Option Bytes :=
  match s with
  | 0x1F :: 0x8B :: 0x08 :: flags :: _ :: _ :: _ :: _ :: _ :: _ :: rest => do
    let rest ← if flags &&& 4 != 0 then afterField? rest else some rest
    let rest ← if flags &&& 8 != 0 then afterText? rest else some rest
    let rest ← if flags &&& 16 != 0 then afterText? rest else some rest
    guard (flags < 32)
    if flags &&& 2 == 0 then some rest
    else
      let sum := (crc (s.take (s.length - rest.length))).toNat % 65536
      match rest with
      | a :: b :: rest => if [a, b] = Deflate.pair sum then some rest else none
      | _ => none
  | _ => none

def member? (s : Bytes) : Option (Bytes × Bytes) := do
  let (data, rest) ← Deflate.inflate? (← afterHeader? s)
  if rest.take 8 = quad (crc data).toNat ++ quad data.length then some (data, rest.drop 8)
  else none

def members? : (fuel : Nat) → Bytes → Option Bytes
  | 0, _ => none
  | fuel + 1, s => do
    let (data, rest) ← member? s
    if rest.isEmpty then some data else (members? fuel rest).map (data ++ ·)

def expand? (s : Bytes) : Option Bytes := members? (s.length + 1) s

end Graft.Gzip
