import Graft.Json.Text
import Graft.Text.Numeral

/-!
# Graft.Json.Field

Typed values out of documents. A member that is missing leaves the value it would have set; of
several members with one key each is read on top of what the ones before it have set, and all must
have the right type.

* `Json.text?`, `Json.flag?`, `Json.integer?`: values of one type.
* `Json.Update`: a value read on top of another one.
* `Json.Slots`: a list that is read again in the places of the old one.
* `Json.field?`: the value that the members of an object give a key.
-/

namespace Graft.Json

def text? : Json → Option Bytes
  | .string body => if Text.isSound body then some (Text.decode body) else none
  | _ => none

def flag? : Json → Option Bool
  | .bool b => some b
  | _ => none

def isNull : Json → Bool
  | .null => true
  | _ => false

def integer? : Json → Option Int
  | .number text =>
    let negative := text.head? == some Byte.dash
    let digits := if negative then text.drop 1 else text
    if digits.all Byte.isDigit then
      let n : Int := digits.foldl (fun n c => n * 10 + (c.toNat - 0x30)) (0 : Nat)
      let n := if negative then -n else n
      if Width.fits n then some n else none
    else none
  | _ => none

abbrev Update (α : Type) := α → Json → Option α

def replacing {α : Type} (read : Json → Option α) : Update α := fun old j =>
  if j.isNull then some old else read j

/-- A list, and what is left behind it of longer lists that were there before. -/
structure Slots (α : Type) where
  items : List α := []
  spare : List α := []

/-- Reads items on top of old ones, and new items on top of a blank one. The old items that are
left are returned as well. -/
def readInto {α : Type} (read : Update α) (blank : α) :
    (old : List α) → List Json → Option (List α × List α)
  | old, [] => some ([], old)
  | old, j :: rest => do
    let item ← read (old.headD blank) j
    let (items, spare) ← readInto read blank old.tail rest
    pure (item :: items, spare)

/-- A list that is read in the places of the old one; `null` and an empty list forget it. -/
def Slots.update {α : Type} (read : Update α) (blank : α) : Update (Slots α) := fun old j =>
  match j with
  | .null => some {}
  | .array [] => some {}
  | .array items =>
    (readInto read blank (old.items ++ old.spare) items).map fun (items, spare) => ⟨items, spare⟩
  | _ => none

def members? : Json → Option (List (Bytes × Json))
  | .object members => some members
  | _ => none

abbrev KeyTest := Bytes → Bytes → Bool

def field? {α : Type} (same : KeyTest) (read : Update α) (name : Bytes) :
    List (Bytes × Json) → (initial : α) → Option α
  | [], a => some a
  | (key, j) :: rest, a =>
    if same name (Text.decode key) then
      match read a j with
      | none => none
      | some a => field? same read name rest a
    else field? same read name rest a

end Graft.Json
