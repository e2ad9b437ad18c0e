import Graft.Text.Bytes

/-!
# Graft.Json

JSON documents. Numbers and strings are kept as they are written, so that a document can be passed
on without its white space and is otherwise unchanged.

* `Json`: a document.
* `Json.value`: the document at the head of a text, and what follows it.
* `Json.depth`, `Json.places`: how deep a document is.
* `Json.compact`, `Json.indented`: a document as text.
-/

namespace Graft

/-- A JSON document. -/
inductive Json where
  | null
  | bool (b : Bool)
  | number (text : Bytes)
  | string (body : Bytes)
  | array (items : List Json)
  | object (members : List (Bytes × Json))

namespace Json

/-! ## Reading -/

def isSpace (c : UInt8) : Bool := c == Byte.space || c == Byte.tab || c == Byte.lf || c == Byte.cr

def skipSpace (s : Bytes) : Bytes := s.dropWhile isSpace

/-- Which strings are accepted. -/
structure Dialect where
  controls : Bool
  escapes : Bool
deriving DecidableEq, Repr

def Dialect.standard : Dialect := ⟨false, false⟩

/-- Control bytes may stand in any string; escapes are only looked at in the keys of objects. -/
def Dialect.lenient : Dialect := ⟨true, true⟩

def Dialect.forKeys (dialect : Dialect) : Dialect := ⟨dialect.controls, false⟩

def escapeLetters : Bytes := "\"\\/bfnrt"

/-- The inside of a string up to the closing quote, and what follows the quote. -/
def stringBody (dialect : Dialect) : Bytes → Option (Bytes × Bytes)
  | [] => none
  | c :: rest =>
    if c = Byte.quote then some ([], rest)
    else if c = Byte.backslash then
      match rest with
      | [] => none
      | e :: rest =>
        if dialect.escapes || escapeLetters.contains e then
          (stringBody dialect rest).map fun (body, behind) => (c :: e :: body, behind)
        else if e = 0x75 then
          match rest with
          | h₁ :: h₂ :: h₃ :: h₄ :: rest =>
            if [h₁, h₂, h₃, h₄].all fun h => (Byte.hexValue? h).isSome then
              (stringBody dialect rest).map fun (body, behind) =>
                (c :: e :: h₁ :: h₂ :: h₃ :: h₄ :: body, behind)
            else none
          | _ => none
        else none
    else if c < 0x20 && !dialect.controls then none
    else (stringBody dialect rest).map fun (body, behind) => (c :: body, behind)

def digits (s : Bytes) : Bytes × Bytes := (s.takeWhile Byte.isDigit, s.dropWhile Byte.isDigit)

def sign (kinds : Bytes) : Bytes → Bytes × Bytes
  | c :: rest => if kinds.contains c then ([c], rest) else ([], c :: rest)
  | [] => ([], [])

/-- The whole part of a number: a zero, or digits that begin with another one. -/
def wholePart (s : Bytes) : Option (Bytes × Bytes) :=
  match s with
  | 0x30 :: rest => some ([0x30], rest)
  | _ =>
    let (whole, rest) := digits s
    if whole.isEmpty then none else some (whole, rest)

def fraction : Bytes → Option (Bytes × Bytes)
  | c :: rest =>
    if c = Byte.dot then
      let (places, behind) := digits rest
      if places.isEmpty then none else some (c :: places, behind)
    else some ([], c :: rest)
  | [] => some ([], [])

def exponent : Bytes → Option (Bytes × Bytes)
  | c :: rest =>
    if c = 0x65 ∨ c = 0x45 then
      let (mark, rest) := sign "+-" rest
      let (power, behind) := digits rest
      if power.isEmpty then none else some (c :: mark ++ power, behind)
    else some ([], c :: rest)
  | [] => some ([], [])

def numberText (s : Bytes) : Option (Bytes × Bytes) :=
  let (minus, rest) := sign "-" s
  match wholePart rest with
  | none => none
  | some (whole, rest) =>
    match fraction rest with
    | none => none
    | some (places, rest) =>
      match exponent rest with
      | none => none
      | some (power, rest) => some (minus ++ whole ++ places ++ power, rest)

def word (name : Bytes) (meaning : Json) (s : Bytes) : Option (Json × Bytes) :=
  (Bytes.after? name s).map fun rest => (meaning, rest)

mutual

/-- The document at the head of a text without white space in front; `fuel` bounds the nesting and
the number of parts. -/
def valueFrom (dialect : Dialect) : (fuel : Nat) → Bytes → Option (Json × Bytes)
  | 0, _ => none
  | fuel + 1, s =>
    match s with
    | [] => none
    | c :: rest =>
      if c = Byte.quote then
        (stringBody dialect rest).map fun (body, behind) => (.string body, behind)
      else if c = Byte.openBracket then
        match skipSpace rest with
        | [] => none
        | d :: behind =>
          if d = Byte.closeBracket then some (.array [], behind)
          else
            (itemsFrom dialect fuel (d :: behind)).map fun (items, behind) => (.array items, behind)
      else if c = Byte.openBrace then
        match skipSpace rest with
        | [] => none
        | d :: behind =>
          if d = Byte.closeBrace then some (.object [], behind)
          else
            (membersFrom dialect fuel (d :: behind)).map fun (members, behind) =>
              (.object members, behind)
      else if c = Byte.dash ∨ Byte.isDigit c then
        (numberText s).map fun (text, behind) => (.number text, behind)
      else if c = 0x74 then word "true" (.bool true) s
      else if c = 0x66 then word "false" (.bool false) s
      else word "null" .null s

def itemsFrom (dialect : Dialect) : (fuel : Nat) → Bytes → Option (List Json × Bytes)
  | 0, _ => none
  | fuel + 1, s =>
    match valueFrom dialect fuel s with
    | none => none
    | some (item, rest) =>
      match skipSpace rest with
      | [] => none
      | c :: rest =>
        if c = Byte.closeBracket then some ([item], rest)
        else if c = Byte.comma then
          (itemsFrom dialect fuel (skipSpace rest)).map fun (items, behind) =>
            (item :: items, behind)
        else none

def membersFrom (dialect : Dialect) :
    (fuel : Nat) → Bytes → Option (List (Bytes × Json) × Bytes)
  | 0, _ => none
  | fuel + 1, s =>
    match s with
    | [] => none
    | c :: rest =>
      if c ≠ Byte.quote then none
      else
        match stringBody dialect.forKeys rest with
        | none => none
        | some (key, rest) =>
          match skipSpace rest with
          | [] => none
          | c :: rest =>
            if c ≠ Byte.colon then none
            else
              match valueFrom dialect fuel (skipSpace rest) with
              | none => none
              | some (item, rest) =>
                match skipSpace rest with
                | [] => none
                | c :: rest =>
                  if c = Byte.closeBrace then some ([(key, item)], rest)
                  else if c = Byte.comma then
                    (membersFrom dialect fuel (skipSpace rest)).map fun (members, behind) =>
                      ((key, item) :: members, behind)
                  else none

end

def value (dialect : Dialect) (s : Bytes) : Option (Json × Bytes) :=
  valueFrom dialect (s.length + 1) (skipSpace s)

def parse (dialect : Dialect) (s : Bytes) : Option Json :=
  match value dialect s with
  | some (j, rest) => if (skipSpace rest).isEmpty then some j else none
  | none => none

/-! ## Size -/

mutual

def depth : Json → Nat
  | array items => depthOfItems items + 1
  | object members => depthOfMembers members + 1
  | _ => 0

def depthOfItems : List Json → Nat
  | [] => 0
  | j :: rest => max (depth j) (depthOfItems rest)

def depthOfMembers : List (Bytes × Json) → Nat
  | [] => 0
  | (_, j) :: rest => max (depth j) (depthOfMembers rest)

end

mutual

/-- How many places a reader needs that keeps one for each open array and object, and one for a
value that it has been promised by a key or by a comma. -/
def places : Json → Nat
  | array items => max (placesOfItems items) (min items.length 2 - 1) + 1
  | object members => max (placesOfMembers members) (min members.length 1) + 1
  | _ => 0

def placesOfItems : List Json → Nat
  | [] => 0
  | j :: rest => max (places j) (placesOfItems rest)

def placesOfMembers : List (Bytes × Json) → Nat
  | [] => 0
  | (_, j) :: rest => max (places j) (placesOfMembers rest)

end

/-! ## Writing -/

def quoted (body : Bytes) : Bytes := Byte.quote :: body ++ [Byte.quote]

mutual

def compact : Json → Bytes
  | null => "null"
  | bool true => "true"
  | bool false => "false"
  | number text => text
  | string body => quoted body
  | array items => Byte.openBracket :: Bytes.joinWith "," (compactItems items) ++ "]"
  | object members => Byte.openBrace :: Bytes.joinWith "," (compactMembers members) ++ "\x7d"

def compactItems : List Json → List Bytes
  | [] => []
  | j :: rest => compact j :: compactItems rest

def compactMembers : List (Bytes × Json) → List Bytes
  | [] => []
  | (key, j) :: rest => (quoted key ++ Byte.colon :: compact j) :: compactMembers rest

end

def newLine (level : Nat) : Bytes := Byte.lf :: List.replicate (2 * level) Byte.space

/-- Parts on lines of their own, one level deeper than what surrounds them. -/
def spread (level : Nat) (opening closing : UInt8) (parts : List Bytes) : Bytes :=
  if parts.isEmpty then [opening, closing]
  else
    opening :: newLine (level + 1) ++ Bytes.joinWith (Byte.comma :: newLine (level + 1)) parts ++
      newLine level ++ [closing]

mutual

/-- A document with two blanks for each level. -/
def indentedAt (level : Nat) : Json → Bytes
  | array items =>
    spread level Byte.openBracket Byte.closeBracket (indentedItems (level + 1) items)
  | object members =>
    spread level Byte.openBrace Byte.closeBrace (indentedMembers (level + 1) members)
  | null => compact null
  | bool b => compact (bool b)
  | number text => text
  | string body => quoted body

def indentedItems (level : Nat) : List Json → List Bytes
  | [] => []
  | j :: rest => indentedAt level j :: indentedItems level rest

def indentedMembers (level : Nat) : List (Bytes × Json) → List Bytes
  | [] => []
  | (key, j) :: rest =>
    (quoted key ++ Byte.colon :: Byte.space :: indentedAt level j) :: indentedMembers level rest

end

def indented (j : Json) : Bytes := indentedAt 0 j

end Json

end Graft
