import Graft.Document
import Graft.Text.Lower
import Graft.Text.Numeral
import Graft.Toml.Text

/-!
# Graft.Toml.Value

Values as they are written. A number or a moment is taken up to the first byte that cannot belong to
one; whether it is one is only asked when it is read as a value of a shape.

* `Toml.Value`: a value as written.
* `Toml.value?`: the value at the head of a text.
* `Toml.Value.read?`: a value as one of a shape.
* `Toml.readFields?`: keys and values as fields of a table.
-/

namespace Graft.Toml

inductive Value where
  | string (s : Bytes)
  | integer (text : Bytes)
  | other
  | array (items : List Value)
  | inlineTable (entries : List (List Bytes × Value))

/-! ## Numbers and moments -/

/-- How many bytes belong to a moment: digits and the marks between them, and one blank before a
digit, whatever follows that digit. -/
def momentLength : (spaced : Bool) → (skip : Nat) → Bytes → Nat
  | _, _, [] => 0
  | spaced, skip + 1, _ :: rest => momentLength spaced skip rest + 1
  | spaced, 0, c :: rest =>
    if Byte.isDigit c || (Bytes.ofString "-+:.TtZz").contains c then
      momentLength spaced 0 rest + 1
    else if c == Byte.space && !spaced && rest.head?.any Byte.isDigit then
      momentLength true 2 rest + 1
    else 0

def beginsMoment (s : Bytes) : Bool :=
  let digits := (s.takeWhile Byte.isDigit).length
  3 ≤ s.length && ((digits == 2 && s[2]? == some Byte.colon) ||
    (digits == 4 && s[4]? == some Byte.dash))

def isNumberByte (c : UInt8) : Bool :=
  Byte.isDigit c || c == Byte.plus || c == Byte.dash || c == Byte.underscore

def isPointByte (c : UInt8) : Bool := c == Byte.dot || c == 0x65 || c == 0x45

def digitTest? (letter : UInt8) : Option (UInt8 → Bool) :=
  if letter = 0x78 then some fun c => (Byte.hexValue? c).isSome
  else if letter = 0x6F then some fun c => 0x30 ≤ c && c ≤ 0x37
  else if letter = 0x62 then some fun c => c == 0x30 || c == 0x31
  else none

def afterSpecial? (s : Bytes) : Option Bytes :=
  match Bytes.after? "inf" s with
  | some rest => some rest
  | none => Bytes.after? "nan" s

/-- A decimal number. One that begins with a zero ends there unless a point or an exponent
follows. -/
def decimalWord? (s : Bytes) : Option (Value × Bytes) :=
  let word := s.takeWhile fun c => isNumberByte c || isPointByte c
  let rest := s.drop word.length
  if rest.head? = some 0x69 ∨ rest.head? = some 0x6E then
    (afterSpecial? rest).map fun rest => (.other, rest)
  else if word.isEmpty then none
  else some (if word.any isPointByte then .other else .integer word, rest)

def number? (s : Bytes) : Option (Value × Bytes) :=
  match s with
  | 0x30 :: letter :: c :: rest =>
    if isPointByte letter then decimalWord? s
    else
      match digitTest? letter with
      | none => some (.integer [0x30], letter :: c :: rest)
      | some isDigit =>
        let digits := (c :: rest).takeWhile fun c => isDigit c || c == Byte.underscore
        some (.integer (0x30 :: letter :: digits), (c :: rest).drop digits.length)
  | _ => decimalWord? s

def word? (s : Bytes) : Option (Value × Bytes) :=
  match s.head? with
  | some 0x74 => (Bytes.after? "true" s).map fun rest => (.other, rest)
  | some 0x66 => (Bytes.after? "false" s).map fun rest => (.other, rest)
  | some 0x69 | some 0x6E => (afterSpecial? s).map fun rest => (.other, rest)
  | _ =>
    if beginsMoment s then some (.other, s.drop (momentLength false 0 s)) else number? s

/-! ## Values -/

mutual

def valueFrom? : (fuel : Nat) → Bytes → Option (Value × Bytes)
  | 0, _ => none
  | fuel + 1, s =>
    match s with
    | [] => none
    | c :: rest =>
      if c = Byte.quote ∨ c = Byte.apostrophe then
        (string? s).map fun (text, behind) => (.string text, behind)
      else if c = Byte.openBracket then
        (items? fuel (skipAll rest)).map fun (items, behind) => (.array items, behind)
      else if c = Byte.openBrace then
        match skipBlanks rest with
        | 0x7D :: behind => some (.inlineTable [], behind)
        | rest =>
          (entries? fuel rest).map fun (entries, behind) => (.inlineTable entries, behind)
      else word? s

/-- The items of a list up to its closing bracket; a comma may stand behind the last. -/
def items? : (fuel : Nat) → Bytes → Option (List Value × Bytes)
  | 0, _ => none
  | fuel + 1, s =>
    match s with
    | 0x5D :: rest => some ([], rest)
    | _ =>
      match valueFrom? fuel s with
      | none => none
      | some (item, rest) =>
        match skipAll rest with
        | 0x2C :: rest => (items? fuel (skipAll rest)).map fun (l, behind) => (item :: l, behind)
        | 0x5D :: rest => some ([item], rest)
        | _ => none

def entries? : (fuel : Nat) → Bytes → Option (List (List Bytes × Value) × Bytes)
  | 0, _ => none
  | fuel + 1, s =>
    match key? s with
    | none => none
    | some (key, rest) =>
      match skipBlanks rest with
      | 0x3D :: rest =>
        match valueFrom? fuel (skipBlanks rest) with
        | none => none
        | some (value, rest) =>
          match skipBlanks rest with
          | 0x2C :: rest =>
            (entries? fuel rest).map fun (entries, behind) => ((key, value) :: entries, behind)
          | 0x7D :: rest => some ([(key, value)], rest)
          | _ => none
      | _ => none

end

def value? (s : Bytes) : Option (Value × Bytes) := valueFrom? (s.length + 1) s

/-! ## Reading -/

def digitsOf? (isDigit : UInt8 → Bool) : (behindDigit : Bool) → Bytes → Option Bytes
  | behindDigit, [] => if behindDigit then some [] else none
  | behindDigit, c :: rest =>
    if c = Byte.underscore then if behindDigit then digitsOf? isDigit false rest else none
    else if isDigit c then (digitsOf? isDigit true rest).map (c :: ·)
    else none

def valueOf (base : Nat) (digits : Bytes) : Nat :=
  digits.foldl (fun n c => n * base + ((Byte.hexValue? c).getD 0).toNat) 0

def based? (base : Nat) (letter : UInt8) (s : Bytes) : Option Int := do
  let isDigit ← digitTest? letter
  let digits ← digitsOf? isDigit false s
  pure (valueOf base digits)

def decimal? (s : Bytes) : Option Int := do
  let negative := s.head? == some Byte.dash
  let signed := negative || s.head? == some Byte.plus
  let digits ← digitsOf? Byte.isDigit false (if signed then s.drop 1 else s)
  guard (digits.length ≤ 1 || digits.head? != some 0x30)
  let n : Int := valueOf 10 digits
  pure (if negative then -n else n)

/-- The whole number of a text, if it fits into 64 bits. -/
def integer? (s : Bytes) : Option Int := do
  let n ← match s with
    | 0x30 :: 0x78 :: rest => based? 16 0x78 rest
    | 0x30 :: 0x6F :: rest => based? 8 0x6F rest
    | 0x30 :: 0x62 :: rest => based? 2 0x62 rest
    | _ => decimal? s
  if Width.fits n then some n else none

def field? (fields : List (Bytes × Shape)) (key : Bytes) : Option (Bytes × Shape) :=
  match fields.find? fun f => f.1 == key with
  | some f => some f
  | none => fields.find? fun f => f.1 == Lower.text key

/-- Where a dotted key leads. -/
inductive Place where
  | unknown
  | field (path : List Bytes) (shape : Shape)

/-- Where a dotted key leads; nowhere if it goes on behind something that is no table. -/
def locate? : Shape → List Bytes → Option Place
  | shape, [] => some (.field [] shape)
  | .table fields, key :: rest =>
    match field? fields key with
    | none => some .unknown
    | some (name, shape) =>
      (locate? shape rest).map fun place => match place with
        | .unknown => .unknown
        | .field path shape => .field (name :: path) shape
  | _, _ :: _ => none

mutual

def Value.read? (shape : Shape) : Value → Option Document
  | .string s => match shape with
    | .text => some (.text s)
    | _ => none
  | .integer text => match shape with
    | .integer => (integer? text).map Document.integer
    | _ => none
  | .other => none
  | .array items => match shape with
    | .list item => (readItems? item items).map Document.list
    | _ => none
  | .inlineTable entries => match shape with
    | .table fields => readFields? (.table fields) entries (Shape.table fields).blank
    | _ => none

def readItems? (shape : Shape) : List Value → Option (List Document)
  | [] => some []
  | v :: rest =>
    match v.read? shape with
    | none => none
    | some d => (readItems? shape rest).map (d :: ·)

def readFields? (shape : Shape) : List (List Bytes × Value) → Document → Option Document
  | [], d => some d
  | (key, v) :: rest, d =>
    match locate? shape key with
    | none => none
    | some .unknown => readFields? shape rest d
    | some (.field path field) =>
      match v.read? field with
      | none => none
      | some inner => readFields? shape rest (d.putAt path inner)

end

end Graft.Toml
