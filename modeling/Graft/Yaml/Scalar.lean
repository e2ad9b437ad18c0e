import Graft.Text.Real

/-!
# Graft.Yaml.Scalar

What a plain word stands for: nothing, a truth value, a number, or itself.

* `Yaml.Scalar`: the value of a word.
* `Yaml.number?`: the number a word stands for.
* `Yaml.resolve`: the value of a plain word.
-/

namespace Graft.Yaml

inductive Scalar where
  | null
  | flag (b : Bool)
  | integer (n : Int)
  | decimal (x : Float)
  | text (s : Bytes)

def Scalar.isText : Scalar → Bool
  | text _ => true
  | _ => false

/-! ## Words -/

def nullWords : List Bytes := ["null", "Null", "NULL", "~"]

def trueWords : List Bytes := ["true", "True", "TRUE"]

def falseWords : List Bytes := ["false", "False", "FALSE"]

def infinityWords : List Bytes := [".inf", ".Inf", ".INF"]

def negativeInfinityWords : List Bytes := ["-.inf", "-.Inf", "-.INF"]

def nanWords : List Bytes := [".nan", ".NaN", ".NAN"]

def infinity : Float := 1.0 / 0.0

def nan : Float := 0.0 / 0.0

/-! ## Numbers -/

/-- A whole number of a base, if all its digits belong to the base. -/
def natural? (base : Nat) (s : Bytes) : Option Nat :=
  if s.isEmpty then none
  else
    s.foldl (fun n c => n.bind fun n => do
      let d ← Byte.hexValue? c
      if d.toNat < base then some (n * base + d.toNat) else none) (some 0)

/-- How a number is written. -/
inductive Spelling where
  | whole (base : Nat) (digits : Bytes)
  | point

/-- How a number without sign is written. A zero in front means base 8. -/
def spellingOf (hasPoint : Bool) (s : Bytes) : Spelling :=
  match s with
  | 0x30 :: 0x78 :: rest => .whole 16 rest
  | 0x30 :: 0x6F :: rest => .whole 8 rest
  | 0x30 :: 0x62 :: rest => .whole 2 rest
  | 0x30 :: c :: rest => if hasPoint then .point else .whole 8 (c :: rest)
  | _ => if hasPoint then .point else .whole 10 s

def dropSign (sign : UInt8) (s : Bytes) : Bytes := if s.head? == some sign then s.drop 1 else s

/-- The number a word stands for. Underscores do not count, and it has to fit into 64 bits, with a
sign if it has one. -/
def number? (s : Bytes) : Option Scalar :=
  let negative := s.head? == some Byte.dash
  let body := (dropSign Byte.dash (dropSign Byte.plus s)).filter (· != Byte.underscore)
  let points := s.count Byte.dot
  if s.isEmpty || s.head? == some Byte.underscore || 1 < points then none
  else
    match spellingOf (points == 1) body with
    | .point => (Real.read? (if negative then Byte.dash :: body else body)).map .decimal
    | .whole base digits =>
      (natural? base digits).bind fun n =>
        if negative then if n ≤ Width.signed then some (.integer (-(n : Int))) else none
        else if n < Width.unsigned then some (.integer n)
        else none

def resolve (s : Bytes) : Scalar :=
  if nullWords.contains s then .null
  else if trueWords.contains s then .flag true
  else if falseWords.contains s then .flag false
  else if infinityWords.contains s then .decimal infinity
  else if negativeInfinityWords.contains s then .decimal (-infinity)
  else if nanWords.contains s then .decimal nan
  else (number? s).getD (.text s)

end Graft.Yaml
