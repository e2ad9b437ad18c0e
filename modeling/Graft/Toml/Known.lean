import Graft.Toml.Value

/-!
# Graft.Toml.Known

Which keys of a document are taken. A key may be given once and a table may be headed once; dotted
keys and headings make the tables above them, and a table that dotted keys have made is closed when
the next heading comes.

* `Toml.Known`: a key, and the keys below it.
* `Toml.Known.assign`, `Toml.Known.openTable`, `Toml.Known.openItem`: one more key or heading.
* `Toml.Keys`: the keys of a document so far.
* `Toml.Value.isSound`: whether the tables inside a value give no key twice.
-/

namespace Graft.Toml

namespace Known

/-- What a key stands for. -/
inductive Kind where
  | value
  | table
  | items
deriving DecidableEq, Repr

end Known

inductive Known where
  /-- A closed table takes no more dotted keys and no heading; a dotted one was made by such keys
  since the last heading. -/
  | node (kind : Known.Kind) (closed dotted : Bool) (below : List (Bytes × Known))

namespace Known

def kind : Known → Kind
  | node kind _ _ _ => kind

def isClosed : Known → Bool
  | node _ closed _ _ => closed

def find? (name : Bytes) : Known → Option Known
  | node _ _ _ below => below.lookup name

def put : Known → (name : Bytes) → (child : Known) → Known
  | node kind closed dotted below, name, child =>
    .node kind closed dotted ((name, child) :: below.filter fun entry => entry.1 != name)

def root : Known := .node .table false false []

mutual

def settled : Known → Known
  | node kind closed dotted below => .node kind closed dotted (settledBelow below)

def settledBelow : List (Bytes × Known) → List (Bytes × Known)
  | [] => []
  | (name, child) :: rest => (name, settledChild child) :: settledBelow rest

def settledChild : Known → Known
  | node kind closed dotted below => .node kind (closed || dotted) false (settledBelow below)

end

def update (f : Known → Option Known) : List Bytes → Known → Option Known
  | [], k => f k
  | name :: rest, k =>
    match k.find? name with
    | none => none
    | some child => (update f rest child).map fun child => k.put name child

def assign : List Bytes → Known → Option Known
  | [], _ => none
  | [name], k =>
    match k.find? name with
    | none => some (k.put name (.node .value false true []))
    | some _ => none
  | name :: rest, k =>
    match k.find? name with
    | none => (assign rest (.node .table false true [])).map fun child => k.put name child
    | some child =>
      if child.kind = .table ∧ !child.isClosed then
        (assign rest child).map fun child => k.put name child
      else none

def openTable : List Bytes → Known → Option Known
  | [], _ => none
  | [name], k =>
    match k.find? name with
    | none => some (k.put name (.node .table true false []))
    | some (.node .table false dotted below) => some (k.put name (.node .table true dotted below))
    | some _ => none
  | name :: rest, k =>
    match k.find? name with
    | none => (openTable rest root).map fun child => k.put name child
    | some child =>
      if child.kind = .value then none
      else (openTable rest child).map fun child => k.put name child

/-- Heads one more table of several under one name, and tells whether it is the first. -/
def openItem : List Bytes → Known → Option (Known × Bool)
  | [], _ => none
  | [name], k =>
    match k.find? name with
    | none => some (k.put name (.node .items true false []), true)
    | some (.node .items closed dotted _) =>
      some (k.put name (.node .items closed dotted []), false)
    | some _ => none
  | name :: rest, k =>
    match k.find? name with
    | none => (openItem rest root).map fun (child, first) => (k.put name child, first)
    | some child =>
      if child.kind = .value then none
      else (openItem rest child).map fun (child, first) => (k.put name child, first)

end Known

mutual

def Value.isSound : Value → Bool
  | .array items => areSound items
  | .inlineTable entries => giveOnce entries .root
  | _ => true

def areSound : List Value → Bool
  | [] => true
  | v :: rest => v.isSound && areSound rest

/-- Whether keys are not taken yet and are given once. -/
def giveOnce : List (List Bytes × Value) → Known → Bool
  | [], _ => true
  | (key, v) :: rest, known =>
    match known.assign key with
    | none => false
    | some known => v.isSound && giveOnce rest known

end

/-- The keys of a document so far, and the table that was headed last. -/
structure Keys where
  known : Known := .root
  current : List Bytes := []

namespace Keys

def settled? (k : Keys) : Option Known := k.known.update (fun table => some table.settled) k.current

def openTable? (k : Keys) (path : List Bytes) : Option Keys :=
  k.settled?.bind fun known => (known.openTable path).map fun known => ⟨known, path⟩

/-- The keys with one more table under a name, and whether it is the first. -/
def openItem? (k : Keys) (path : List Bytes) : Option (Keys × Bool) :=
  k.settled?.bind fun known =>
    (known.openItem path).map fun (known, first) => (⟨known, path⟩, first)

def assignAll? : List (List Bytes × Value) → Keys → Option Keys
  | [], k => some k
  | (key, v) :: rest, k =>
    if v.isSound then
      match k.known.update (Known.assign key) k.current with
      | none => none
      | some known => assignAll? rest ⟨known, k.current⟩
    else none

end Keys

end Graft.Toml
