import Graft.Toml.Known

/-!
# Graft.Toml

Documents of keys, values and headed tables, read as values of a shape. Below a heading that leads
to a field the shape does not have, nothing is looked at up to the next heading.

* `Toml.Section`: a heading and the keys and values below it.
* `Toml.sections?`: the sections of a text.
* `Toml.read?`: a text as a document of a shape.
-/

namespace Graft.Toml

/-! ## Sections -/

inductive Heading where
  | top
  | table (path : List Bytes)
  | item (path : List Bytes)
deriving DecidableEq, Repr

structure Section where
  heading : Heading
  entries : List (List Bytes × Value) := []

def heading? (s : Bytes) : Option (Heading × Bytes) :=
  match s with
  | 0x5B :: 0x5B :: rest => do
    let (path, rest) ← key? rest
    let rest ← Bytes.after? "]]" (skipBlanks rest)
    (endLine? rest).map fun rest => (.item path, rest)
  | 0x5B :: rest => do
    let (path, rest) ← key? rest
    let rest ← Bytes.after? "]" (skipBlanks rest)
    (endLine? rest).map fun rest => (.table path, rest)
  | _ => none

def assignment? (s : Bytes) : Option ((List Bytes × Value) × Bytes) := do
  let (key, rest) ← key? s
  let rest ← Bytes.after? "=" (skipBlanks rest)
  let (v, rest) ← value? (skipBlanks rest)
  (endLine? rest).map fun rest => ((key, v), rest)

def sectionsFrom? : (fuel : Nat) → Section → Bytes → Option (List Section)
  | 0, _, _ => none
  | fuel + 1, current, s =>
    let done : Section := { current with entries := current.entries.reverse }
    match skipAll s with
    | [] => some [done]
    | c :: s =>
      if c = Byte.openBracket then
        match heading? (c :: s) with
        | none => none
        | some (heading, rest) => (sectionsFrom? fuel ⟨heading, []⟩ rest).map (done :: ·)
      else
        match assignment? (c :: s) with
        | none => none
        | some (entry, rest) =>
          sectionsFrom? fuel { current with entries := entry :: current.entries } rest

def sections? (s : Bytes) : Option (List Section) :=
  if Utf8.isValid s then sectionsFrom? (s.length + 1) ⟨.top, []⟩ s else none

/-! ## Reading -/

/-- A document after a section, and whether the shape has the field that the section is about. -/
structure Entered where
  document : Document
  known : Bool

def Entered.map (f : Document → Document) (e : Entered) : Entered :=
  { e with document := f e.document }

def putLast (items : List Document) (item : Document) : Document :=
  .list (items.dropLast ++ [item])

def enterTable? (entries : List (List Bytes × Value)) (shape : Shape) (path : List Bytes)
    (d : Document) : Option Entered :=
  match shape, path with
  | .list item, path =>
    match d.items.getLast? with
    | none => none
    | some last => (enterTable? entries item path last).map (·.map (putLast d.items))
  | .table fields, key :: rest =>
    match field? fields key with
    | none => some ⟨d, false⟩
    | some (name, field) =>
      (enterTable? entries field rest ((d.get? name).getD field.blank)).map
        (·.map fun inner => d.put name inner)
  | shape, [] => (readFields? shape entries d).map fun d => ⟨d, true⟩
  | _, _ :: _ => none
termination_by (path.length, sizeOf shape)

mutual

/-- Fills one more item of the list at the end of a path. On the way, a list stands for its last
item, or for a new one if it is empty; `first` empties the list at the end. -/
def enterItem? (entries : List (List Bytes × Value)) (first : Bool) (shape : Shape)
    (path : List Bytes) (d : Document) : Option Entered :=
  match shape, path with
  | .table fields, key :: rest =>
    match field? fields key with
    | none => some ⟨d, false⟩
    | some (name, field) =>
      (enterList? entries first field rest ((d.get? name).getD field.blank)).map
        (·.map fun inner => d.put name inner)
  | shape, [] => (readFields? shape entries d).map fun d => ⟨d, true⟩
  | _, _ :: _ => none
termination_by (path.length, sizeOf shape, 0)

def enterList? (entries : List (List Bytes × Value)) (first : Bool) (shape : Shape)
    (path : List Bytes) (d : Document) : Option Entered :=
  match shape, path with
  | .list item, [] =>
    let items := if first then [] else d.items
    (readFields? item entries item.blank).map fun new => ⟨.list (items ++ [new]), true⟩
  | .list item, path =>
    match d.items.getLast? with
    | some last => (enterItem? entries first item path last).map (·.map (putLast d.items))
    | none =>
      (enterItem? entries first item path item.blank).map fun e =>
        if e.known then ⟨.list [e.document], true⟩ else ⟨d, false⟩
  | _, [] => none
  | shape, path => enterItem? entries first shape path d
termination_by (path.length, sizeOf shape, 1)

end

/-- A document so far, and the keys that are taken. -/
structure Progress where
  keys : Keys := {}
  document : Document

/-- Goes through a section. Where the shape has no field for it, only its heading counts. -/
def Progress.add? (shape : Shape) (p : Progress) (s : Section) : Option Progress :=
  let finish (keys : Keys) (e : Entered) : Option Progress :=
    if e.known then (Keys.assignAll? s.entries keys).map fun keys => ⟨keys, e.document⟩
    else some ⟨keys, p.document⟩
  match s.heading with
  | .top => (readFields? shape s.entries p.document).bind fun d => finish p.keys ⟨d, true⟩
  | .table path => do
    let keys ← p.keys.openTable? path
    finish keys (← enterTable? s.entries shape path p.document)
  | .item path => do
    let (keys, first) ← p.keys.openItem? path
    finish keys (← enterItem? s.entries first shape path p.document)

def read? (shape : Shape) (s : Bytes) : Option Document := do
  let sections ← sections? s
  let p ← sections.foldlM (Progress.add? shape) { document := shape.blank }
  pure p.document

end Graft.Toml
