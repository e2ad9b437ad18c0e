import Graft.Document
import Graft.Yaml.Value

/-!
# Graft.Yaml

Documents whose structure is their indentation, read as values of a shape. A text may hold several
documents; the first that holds anything counts, but all have to be well formed.

* `Yaml.nodes?`: the documents of a text.
* `Yaml.fields?`: the fields of a table, with those it takes in from others.
* `Yaml.read?`: a text as a document of a shape.
-/

namespace Graft.Yaml

/-! ## Documents -/

def versionName : Bytes := "YAML"

def versions : List Bytes := ["1.0", "1.1", "1.2", "1.3"]

/-- Whether a directive may stand where it is; `isVersioned` says that a version has been given. A
version stands alone behind its name and is given once. -/
def isDirectiveOk (isVersioned : Bool) (name : Phrase) (values : List Phrase) : Bool :=
  if name.first.text = versionName then
    !isVersioned && values.length == 1 && values.all fun v => versions.contains v.first.text
  else true

/-- The values of some documents; one without value has none. A version counts up to the end of a
document that has a mark. -/
def pageNodes? (size : Nat) : (isVersioned : Bool) → List Page → Option (List Node)
  | _, [] => some []
  | isVersioned, page :: rest =>
    match page.body with
    | [] => pageNodes? size (isVersioned && !page.isClosed) rest
    | [.directive _ name values] =>
      if isDirectiveOk isVersioned name values then
        pageNodes? size (isVersioned || name.first.text = versionName) rest
      else none
    | body =>
      match Node.ofBody? size body with
      | none => none
      | some node =>
        (pageNodes? size (isVersioned && !page.isClosed) rest).map (node :: ·)

def nodes? (s : Bytes) : Option (List Node) := do
  let tokens ← tokens? s
  let pages ← (phrases? tokens).bind (documents? [])
  pageNodes? tokens.length false pages

/-- Whether a document says nothing: it has no value, and is not just the word for that. -/
def saysNothing (node : Node) (v : Value) : Bool :=
  match node with
  | .scalar .null => false
  | _ => v.isNull

def firstNode? : List Node → Names → Option (Option Node × Names)
  | [], names => some (none, names)
  | node :: rest, names =>
    match node.value? names with
    | none => none
    | some (v, names) =>
      (firstNode? rest names).map fun (first, names) =>
        (if saysNothing node v then first else some node, names)

/-! ## Fields -/

def depthLimit : Nat := 10000

mutual

/-- The fields of a table, with those it takes in from others. No two may have the same name, and
a table with a key that is no text has none. -/
def fields? (names : Names) : (fuel : Nat) → Node → Option (List (Bytes × Node))
  | 0, _ => none
  | fuel + 1, node =>
    match node with
    | .table entries => entryFields? names fuel entries []
    | .named _ (.table entries) => entryFields? names fuel entries []
    | .reference name =>
      match names.find? name with
      | some (.table entries, _) => entryFields? names fuel entries []
      | _ => none
    | _ => none

def entryFields? (names : Names) : (fuel : Nat) → List (Node × Node) → List (Bytes × Node) →
    Option (List (Bytes × Node))
  | 0, _, _ => none
  | _, [], known => some known
  | fuel + 1, (key, node) :: rest, known =>
    let isKnown (name : Bytes) := known.any fun field => field.1 == name
    if key.isMerge then
      match fields? names fuel node with
      | none => none
      | some merged =>
        if merged.any fun field => isKnown field.1 then none
        else entryFields? names fuel rest (known ++ merged)
    else
      match key.value? names with
      | none => none
      | some (.text name, _) =>
        if isKnown name then none else entryFields? names fuel rest (known ++ [(name, node)])
      | some _ => some []

end

/-! ## Reading -/

def items : Node → Option (List Node)
  | .scalar .null => some []
  | .list items => some items
  | .tagged _ (.list items) => some items
  | _ => none

mutual

def hasShape : Shape → Document → Bool
  | .text, .text _ => true
  | .integer, .integer _ => true
  | .list item, .list items => items.all (hasShape item)
  | .table fields, .table entries => haveShapes fields entries
  | _, _ => false

def haveShapes : List (Bytes × Shape) → List (Bytes × Document) → Bool
  | [], [] => true
  | (_, shape) :: shapes, (_, d) :: rest => hasShape shape d && haveShapes shapes rest
  | _, _ => false

end

abbrev Done := List (Bytes × Document)

def Done.find? (done : Done) (name : Bytes) (shape : Shape) : Option Document :=
  (done.lookup name).filter (hasShape shape)

mutual

def content? (names : Names) : Shape → Node → Done → Option (Document × Done)
  | .text, node, done =>
    ((node.value? names).bind fun (v, _) => v.asText?).map fun s => (.text s, done)
  | .integer, node, done =>
    ((node.value? names).bind fun (v, _) => v.asInteger?).map fun n => (.integer n, done)
  | .list item, node, done =>
    match items node with
    | none => none
    | some nodes =>
      let step (acc : List Document × Done) (node : Node) : Option (List Document × Done) :=
        (element? names item node acc.2).map fun (d, done) => (acc.1 ++ [d], done)
      (nodes.foldlM step ([], done)).map fun (ds, done) => (.list ds, done)
  | .table shapes, node, done =>
    match fields? names depthLimit node with
    | none => none
    | some fields =>
      (tableContent? names fields shapes done).map fun (entries, done) => (.table entries, done)

def named? (names : Names) : Shape → Node → Done → Option (Document × Done)
  | shape, .named name node, done =>
    (content? names shape node done).map fun (d, done) => (d, (name, d) :: done)
  | shape, node, done => content? names shape node done

/-- An element of a list or table as a value of a shape. A name stands for the value read under it,
if that has the shape, and nothing gives a blank value. -/
def element? (names : Names) : Shape → Node → Done → Option (Document × Done)
  | shape, .scalar .null, done => some (shape.blank, done)
  | shape, .reference name, done =>
    match done.find? name shape with
    | some d => some (d, done)
    | none =>
      match names.find? name with
      | some (.scalar .null, _) => some (shape.blank, done)
      | some (node, _) => content? names shape node done
      | none => none
  | shape, node, done => named? names shape node done

def tableContent? (names : Names) (fields : List (Bytes × Node)) : List (Bytes × Shape) → Done →
    Option (List (Bytes × Document) × Done)
  | [], done => some ([], done)
  | (name, shape) :: rest, done =>
    let found := match fields.lookup name with
      | none => some (shape.blank, done)
      | some node => element? names shape node done
    match found with
    | none => none
    | some (d, done) =>
      (tableContent? names fields rest done).map fun (entries, done) => ((name, d) :: entries, done)

end

def read? (shape : Shape) (s : Bytes) : Option Document := do
  let (first, names) ← firstNode? (← nodes? s) []
  match first with
  | none => some shape.blank
  | some node => (named? names shape node []).map Prod.fst

end Graft.Yaml
