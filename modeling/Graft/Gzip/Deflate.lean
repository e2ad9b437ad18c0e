import Graft.Gzip.Huffman
import Graft.Text.Bytes

/-!
# Graft.Gzip.Deflate

Compressed data as a sequence of blocks: bytes as they are, or literals and copies of earlier data
under a prefix code.

* `Deflate.inflate?`: the data, and what follows the last block.
* `Deflate.stored`: data in blocks of bytes as they are.
-/

namespace Graft.Deflate

open Huffman (Tree)

/-- The bits of bytes, the least significant of each byte first. -/
def bits (s : Bytes) : List Bool :=
  s.flatMap fun b => (List.range 8).map b.toNat.testBit

def number? : (width : Nat) → List Bool → Option (Nat × List Bool)
  | 0, bits => some (0, bits)
  | _ + 1, [] => none
  | width + 1, b :: bits =>
    (number? width bits).map fun (n, rest) => (2 * n + (if b then 1 else 0), rest)

/-- Base lengths of copies and the number of bits that are added, from the symbol 257 on. -/
def lengthCodes : List (Nat × Nat) := [
  (3, 0), (4, 0), (5, 0), (6, 0), (7, 0), (8, 0), (9, 0), (10, 0), (11, 1), (13, 1), (15, 1),
  (17, 1), (19, 2), (23, 2), (27, 2), (31, 2), (35, 3), (43, 3), (51, 3), (59, 3), (67, 4),
  (83, 4), (99, 4), (115, 4), (131, 5), (163, 5), (195, 5), (227, 5), (258, 0)
]

def distanceCodes : List (Nat × Nat) := [
  (1, 0), (2, 0), (3, 0), (4, 0), (5, 1), (7, 1), (9, 2), (13, 2), (17, 3), (25, 3), (33, 4),
  (49, 4), (65, 5), (97, 5), (129, 6), (193, 6), (257, 7), (385, 7), (513, 8), (769, 8),
  (1025, 9), (1537, 9), (2049, 10), (3073, 10), (4097, 11), (6145, 11), (8193, 12), (12289, 12),
  (16385, 13), (24577, 13)
]

def extended? (codes : List (Nat × Nat)) (n : Nat) (bits : List Bool) :
    Option (Nat × List Bool) :=
  match codes[n]? with
  | none => none
  | some (base, width) => (number? width bits).map fun (extra, rest) => (base + extra, rest)

def copy (distance : Nat) : (length : Nat) → Array UInt8 → Array UInt8
  | 0, out => out
  | length + 1, out => copy distance length (out.push (out.getD (out.size - distance) 0))

def symbols? (literals distances : Tree) :
    (fuel : Nat) → List Bool → Array UInt8 → Option (List Bool × Array UInt8)
  | 0, _, _ => none
  | fuel + 1, bits, out =>
    match literals.next? bits with
    | none => none
    | some (n, bits) =>
      if n < 256 then symbols? literals distances fuel bits (out.push n.toUInt8)
      else if n = 256 then some (bits, out)
      else
        match extended? lengthCodes (n - 257) bits with
        | none => none
        | some (length, bits) =>
          match distances.next? bits with
          | none => none
          | some (d, bits) =>
            match extended? distanceCodes d bits with
            | none => none
            | some (distance, bits) =>
              if out.size < distance then none
              else symbols? literals distances fuel bits (copy distance length out)

def fixedLiterals : Option Tree :=
  Huffman.ofLengths (List.replicate 144 8 ++ List.replicate 112 9 ++ List.replicate 24 7 ++
    List.replicate 8 8)

def fixedDistances : Option Tree := Huffman.ofLengths (List.replicate 32 5)

/-- How many literals a block may describe, of those behind the first 257. -/
def maxLiterals : Nat := 29

/-- How many distances a block may describe, of those behind the first. -/
def maxDistances : Nat := 29

def lengthOrder : List Nat := [16, 17, 18, 0, 8, 7, 9, 6, 10, 5, 11, 4, 12, 3, 13, 2, 14, 1, 15]

def triples? : (count : Nat) → List Bool → Option (List Nat × List Bool)
  | 0, bits => some ([], bits)
  | count + 1, bits =>
    match number? 3 bits with
    | none => none
    | some (n, bits) => (triples? count bits).map fun (ns, rest) => (n :: ns, rest)

def lengths? (code : Tree) (total : Nat) :
    (fuel : Nat) → List Nat → List Bool → Option (List Nat × List Bool)
  | 0, _, _ => none
  | fuel + 1, done, bits =>
    if done.length = total then some (done, bits)
    else if total < done.length then none
    else
      let again (value base width : Nat) (bits : List Bool) :=
        match number? width bits with
        | none => none
        | some (n, bits) => lengths? code total fuel (done ++ List.replicate (base + n) value) bits
      match code.next? bits with
      | none => none
      | some (n, bits) =>
        if n < 16 then lengths? code total fuel (done ++ [n]) bits
        else if n = 16 then
          match done.getLast? with
          | none => none
          | some last => again last 3 2 bits
        else if n = 17 then again 0 3 3 bits
        else again 0 11 7 bits

def describedCodes? (bits : List Bool) : Option ((Tree × Tree) × List Bool) := do
  let (literals, bits) ← number? 5 bits
  let (distances, bits) ← number? 5 bits
  guard (literals ≤ maxLiterals ∧ distances ≤ maxDistances)
  let (count, bits) ← number? 4 bits
  let (ns, bits) ← triples? (count + 4) bits
  let place (lengths : List Nat) (item : Nat × Nat) := lengths.set item.1 item.2
  let code ← Huffman.ofLengths ((lengthOrder.zip ns).foldl place (List.replicate 19 0))
  let total := literals + 257 + distances + 1
  let (lengths, bits) ← lengths? code total (total + 1) [] bits
  let literalCode ← Huffman.ofLengths (lengths.take (literals + 257))
  let distanceCode ← Huffman.ofLengths (lengths.drop (literals + 257))
  pure ((literalCode, distanceCode), bits)

def plain? : (count : Nat) → List Bool → Array UInt8 → Option (List Bool × Array UInt8)
  | 0, bits, out => some (bits, out)
  | count + 1, bits, out =>
    match number? 8 bits with
    | none => none
    | some (b, bits) => plain? count bits (out.push b.toUInt8)

/-- A block of bytes as they are: it begins at a byte, with its length and the complement. -/
def storedBlock? (bits : List Bool) (out : Array UInt8) : Option (List Bool × Array UInt8) := do
  let (length, bits) ← number? 16 (bits.drop (bits.length % 8))
  let (complement, bits) ← number? 16 bits
  if length + complement = 65535 then plain? length bits out else none

def blocks? : (fuel : Nat) → List Bool → Array UInt8 → Option (List Bool × Array UInt8)
  | 0, _, _ => none
  | fuel + 1, bits, out => do
    let (last, bits) ← number? 1 bits
    let (kind, bits) ← number? 2 bits
    let (bits, out) ←
      if kind = 0 then storedBlock? bits out
      else if kind = 1 then do
        symbols? (← fixedLiterals) (← fixedDistances) (bits.length + 1) bits out
      else if kind = 2 then do
        let ((literals, distances), bits) ← describedCodes? bits
        symbols? literals distances (bits.length + 1) bits out
      else none
    if last = 1 then some (bits, out) else blocks? fuel bits out

def inflate? (s : Bytes) : Option (Bytes × Bytes) :=
  (blocks? (s.length + 1) (bits s) #[]).map fun (rest, out) =>
    (out.toList, s.drop (s.length - rest.length / 8))

def pair (n : Nat) : Bytes := [n.toUInt8, (n / 256).toUInt8]

def blockLimit : Nat := 65535

/-- Data in blocks of bytes as they are; `more` blocks may follow the first. -/
def storedBlocks : (more : Nat) → Bytes → Bytes
  | 0, s => 1 :: pair s.length ++ pair (blockLimit - s.length) ++ s
  | more + 1, s =>
    if s.length ≤ blockLimit then storedBlocks 0 s
    else
      0 :: pair blockLimit ++ pair 0 ++ s.take blockLimit ++ storedBlocks more (s.drop blockLimit)

def stored (s : Bytes) : Bytes := storedBlocks (s.length / blockLimit) s

end Graft.Deflate
