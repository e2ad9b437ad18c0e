import Graft.Text.Base64
import Graft.Text.Decimal
import Graft.Text.Lower
import Graft.Yaml.Node

/-!
# Graft.Yaml.Value

What nodes stand for once tags are applied and names are followed.

* `Yaml.Value`: a value without names.
* `Yaml.Names`: the values that have a name.
* `Yaml.Node.value?`: the value of a node, and the names after it.
* `Yaml.Value.asText?`, `Yaml.Value.asInteger?`: a value as text and as a whole number.
-/

namespace Graft.Yaml

/-- A value without names. -/
inductive Value where
  | null
  | flag (b : Bool)
  | integer (n : Int)
  | converted (n : Int)
  | decimal (x : Float)
  | text (s : Bytes)
  | binary (s : Bytes)
  | moment
  | list (items : List Value)
  | table (entries : List (Bytes × Value))

namespace Value

def ofScalar : Scalar → Value
  | .null => .null
  | .flag b => .flag b
  | .integer n => .integer n
  | .decimal x => .decimal x
  | .text s => .text s

def isNull : Value → Bool
  | null => true
  | _ => false

/-! ## Texts -/

def flagText (b : Bool) : Bytes := if b then "true" else "false"

def decimalText (x : Float) : Bytes :=
  if x.isNaN then "NaN"
  else if x.isInf then if x < 0 then "-Inf" else "+Inf"
  else Decimal.text .short x

/-- Entries in the order of their keys; of entries with one key the last counts. -/
def inOrder (entries : List (Bytes × Bytes)) : List (Bytes × Bytes) :=
  let keys := Bytes.dedup (Bytes.sort (entries.map Prod.fst))
  keys.filterMap fun key => (entries.reverse.lookup key).map fun shown => (key, shown)

mutual

def spelled : Value → Bytes
  | null => "<nil>"
  | flag b => flagText b
  | integer n => Bytes.ofInt n
  | converted n => Bytes.ofInt n
  | decimal x => decimalText x
  | text s => s
  | binary s => "[" ++ Bytes.joinWith " " (s.map fun c => Bytes.ofNat c.toNat) ++ "]"
  | moment => []
  | list items => "[" ++ Bytes.joinWith " " (spelledItems items) ++ "]"
  | table entries =>
    let ordered := inOrder (spelledEntries entries)
    let shown := ordered.map fun entry => entry.1 ++ Byte.colon :: entry.2
    "map[" ++ Bytes.joinWith " " shown ++ "]"

def spelledItems : List Value → List Bytes
  | [] => []
  | v :: rest => v.spelled :: spelledItems rest

def spelledEntries : List (Bytes × Value) → List (Bytes × Bytes)
  | [] => []
  | (key, v) :: rest => (key, v.spelled) :: spelledEntries rest

end

def asText? : Value → Option Bytes
  | null => some []
  | flag b => some (flagText b)
  | integer n => some (Bytes.ofInt n)
  | converted n => some (Bytes.ofInt n)
  | decimal x => some (decimalText x)
  | text s => some s
  | binary s => some s
  | _ => none

/-- The first number that is too large for a whole number with a sign, and for one without. -/
def signedLimit : Float := 9223372036854775808.0

def unsignedLimit : Float := 18446744073709551616.0

/-- A value as a whole number: a number without what follows the point, or the text of one that is
not below zero. -/
def asInteger? : Value → Option Int
  | integer n => if n < Width.signed then some n else none
  | decimal x => if x ≤ signedLimit then some (Real.truncate x) else none
  | text s =>
    match Real.read? s with
    | some x => if 0 ≤ x ∧ x ≤ unsignedLimit then some (Real.truncate x) else none
    | none => none
  | _ => none

/-! ## Tags -/

/-- The whole number nearest to that of a text; zero if it is none. -/
def wholeOf (s : Bytes) : Int :=
  let (negative, digits) := Numeral.signOf s
  if digits.isEmpty || !digits.all Byte.isDigit then 0
  else
    let n : Int := Decimal.natOfDigits digits
    if negative then max (-n) (-Width.signed) else min n (Width.signed - 1)

def floatOf : Value → Value
  | integer n => .decimal (Float.ofInt n)
  | converted n => .decimal (Float.ofInt n)
  | decimal x => .decimal x
  | text s => .decimal ((Real.read? s).getD 0.0)
  | _ => .converted 0

def flagOf? (s : Bytes) : Option Bool :=
  match Numeral.readBool s with
  | .ok b => some b
  | .error _ =>
    if s = Bytes.ofString "yes" then some true
    else if s = Bytes.ofString "no" then some false
    else none

def tagged? (tag : Bytes) (v : Value) : Option Value :=
  if tag = Bytes.ofString "!!int" then some (.converted (wholeOf v.spelled))
  else if tag = Bytes.ofString "!!float" then some v.floatOf
  else if tag = Bytes.ofString "!!bool" then (flagOf? (Lower.text v.spelled)).map .flag
  else if tag = Bytes.ofString "!!str" then some (.text (if v.isNull then [] else v.spelled))
  else if tag = Bytes.ofString "!!binary" then
    match v with
    | .text s => some (.binary (Base64.decode s))
    | _ => none
  else some v

end Value

/-! ## Names -/

abbrev Names := List (Bytes × Option (Node × Value))

def Names.find? (names : Names) (name : Bytes) : Option (Node × Value) := (names.lookup name).join

def Node.isTable (names : Names) : Node → Bool
  | .table _ => true
  | .named _ node => node.isTable names
  | .reference name =>
    match names.find? name with
    | some (.table _, _) => true
    | _ => false
  | _ => false

def Node.isMergeable (names : Names) : Node → Bool
  | .list items => items.all fun item => item.isTable names
  | node => node.isTable names

/-- Whether a key is the one under which other tables are taken in. -/
def Node.isMerge : Node → Bool
  | .merge => true
  | .tagged _ node => node.isMerge
  | .named _ node => node.isMerge
  | _ => false

def Value.keyText (v : Value) : Bytes := if v.isNull then "null" else v.spelled

def Value.mergedEntries : Value → List (Bytes × Value)
  | .table entries => entries
  | .list items => items.flatMap fun
    | .table entries => entries
    | _ => []
  | _ => []

def nullTag : Bytes := "!!null"

def momentTag : Bytes := "!!timestamp"

mutual

/-- The value of a node, and the names after it. A name has to be given before it is used; inside
its own value it stands for nothing. -/
def Node.value? : Node → Names → Option (Value × Names)
  | .scalar s, names => some (.ofScalar s, names)
  | .merge, names => some (.null, names)
  | .list items, names => (itemValues? items names).map fun (items, names) => (.list items, names)
  | .table entries, names =>
    (entryValues? entries names).map fun (entries, names) => (.table entries, names)
  | .tagged tag node, names =>
    if tag = nullTag then some (.null, names)
    else if tag = momentTag then
      match node.value? names with
      | some (_, names) => some (.moment, names)
      | none => some (.moment, names)
    else
      match node.value? names with
      | some (v, names) => (v.tagged? tag).map fun v => (v, names)
      | none => none
  | .named name node, names =>
    (node.value? ((name, none) :: names)).map fun (v, names) =>
      (v, (name, some (node, v)) :: names)
  | .reference name, names =>
    match names.lookup name with
    | none => none
    | some none => some (.null, names)
    | some (some (_, v)) => some (v, names)

def itemValues? : List Node → Names → Option (List Value × Names)
  | [], names => some ([], names)
  | node :: rest, names =>
    match node.value? names with
    | none => none
    | some (v, names) => (itemValues? rest names).map fun (vs, names) => (v :: vs, names)

def entryValues? : List (Node × Node) → Names → Option (List (Bytes × Value) × Names)
  | [], names => some ([], names)
  | (key, node) :: rest, names =>
    if key.isMerge then
      match node.value? names with
      | none => none
      | some (v, names) =>
        if node.isMergeable names then
          (entryValues? rest names).map fun (vs, names) => (v.mergedEntries ++ vs, names)
        else none
    else
      match key.value? names with
      | none => none
      | some (k, names) =>
        match node.value? names with
        | none => none
        | some (v, names) =>
          (entryValues? rest names).map fun (vs, names) => ((k.keyText, v) :: vs, names)

end

end Graft.Yaml
