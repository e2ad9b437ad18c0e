import Graft.Text.Bytes

/-!
# Graft.Document

Documents of keys and values, and what a reader expects of one. A document that a format gives for
a shape has that shape: every table holds exactly the fields of its shape, blank where the text says
nothing.

* `Shape`: what is expected of a value.
* `Document`: a value.
* `Shape.blank`: the value of a shape that nothing was said about.
* `Document.get?`, `Document.put`, `Document.putAt`: the fields of a table.
-/

namespace Graft

/-- What is expected of a value. -/
inductive Shape where
  | text
  | integer
  | list (item : Shape)
  | table (fields : List (Bytes × Shape))

/-- A value. -/
inductive Document where
  | text (s : Bytes)
  | integer (n : Int)
  | list (items : List Document)
  | table (entries : List (Bytes × Document))

mutual

/-- The value of a shape that nothing was said about. -/
def Shape.blank : Shape → Document
  | .text => .text []
  | .integer => .integer 0
  | .list _ => .list []
  | .table fields => .table (blankFields fields)

def blankFields : List (Bytes × Shape) → List (Bytes × Document)
  | [] => []
  | (name, shape) :: rest => (name, shape.blank) :: blankFields rest

end

namespace Document

def entries : Document → List (Bytes × Document)
  | table entries => entries
  | _ => []

def items : Document → List Document
  | list items => items
  | _ => []

def asText : Document → Bytes
  | text s => s
  | _ => []

def asInteger : Document → Int
  | integer n => n
  | _ => 0

def get? (d : Document) (name : Bytes) : Option Document := d.entries.lookup name

def put : Document → (name : Bytes) → (field : Document) → Document
  | table entries, name, field =>
    .table (entries.map fun entry => if entry.1 = name then (name, field) else entry)
  | d, _, _ => d

def putAt : Document → (path : List Bytes) → (field : Document) → Document
  | _, [], field => field
  | d, name :: rest, field =>
    match d.get? name with
    | none => d
    | some inner => d.put name (inner.putAt rest field)

end Document

end Graft
