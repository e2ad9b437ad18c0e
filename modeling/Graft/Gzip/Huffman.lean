/-!
# Graft.Gzip.Huffman

Prefix codes given by the lengths of their words. Words are numbered by length and then by symbol,
so the lengths alone fix the code.

* `Huffman.Tree`: a code as a tree; a `false` bit leads to the left.
* `Huffman.isSound`: whether lengths leave no word over.
* `Huffman.ofLengths`: the code with the given lengths.
* `Huffman.Tree.next?`: the symbol at the head of some bits.
-/

namespace Graft.Huffman

inductive Tree where
  | nothing
  | symbol (n : Nat)
  | fork (left right : Tree)
deriving Repr

def Tree.next? : Tree → List Bool → Option (Nat × List Bool)
  | symbol n, bits => some (n, bits)
  | fork left right, bit :: bits => if bit then right.next? bits else left.next? bits
  | _, _ => none

def Tree.insert (n : Nat) : List Bool → Tree → Option Tree
  | [], nothing => some (symbol n)
  | bit :: word, nothing =>
    (insert n word nothing).map fun t => if bit then fork nothing t else fork t nothing
  | bit :: word, fork left right =>
    if bit then (insert n word right).map (fork left) else (insert n word left).map (fork · right)
  | _, _ => none

def bitsOf : (width : Nat) → Nat → List Bool
  | 0, _ => []
  | width + 1, n => bitsOf width (n / 2) ++ [n % 2 == 1]

def maxLength : Nat := 15

/-- The first word of each length, from the length 1 on, given how many words each length has. -/
def firstWords (counts : List Nat) : List Nat :=
  let step (acc : List Nat × Nat) (count : Nat) := (acc.1 ++ [acc.2], (acc.2 + count) * 2)
  (counts.foldl step ([], 0)).1

def words (lengths : List Nat) : List (Nat × List Bool) :=
  let count (l : Nat) := lengths.countP (· == l)
  let first := firstWords ((List.range maxLength).map fun i => count (i + 1))
  let step (acc : List (Nat × List Bool) × List Nat) (item : Nat × Nat) :=
    let (length, n) := item
    if length = 0 then acc
    else
      let word := acc.2.getD (length - 1) 0
      ((n, bitsOf length word) :: acc.1, acc.2.set (length - 1) (word + 1))
  (lengths.zipIdx.foldl step ([], first)).1.reverse

def isSound (lengths : List Nat) : Bool :=
  let used := lengths.filter (· != 0)
  let longest := used.foldl Nat.max 0
  let weight := used.foldl (fun n l => n + 1 <<< (longest - l)) 0
  used.isEmpty || weight == 1 <<< longest || used == [1]

/-- The code whose words have the given lengths; a symbol of length zero has no word. Lengths that
leave words over are refused. -/
def ofLengths (lengths : List Nat) : Option Tree :=
  if isSound lengths then
    (words lengths).foldl (fun t (n, word) => t.bind (Tree.insert n word)) (some .nothing)
  else none

end Graft.Huffman
