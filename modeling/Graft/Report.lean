import Graft.Disk
import Graft.Gzip
import Graft.Json.Field
import Graft.Text.Decimal
import Graft.Text.Lower

/-!
# Graft.Report

What a build did, file by file, and how it is kept: an indented JSON document, compressed if its
path ends in `.gz`.

* `FileResult`, `Report`: the outcome for one file and for one tree.
* `Report.render`, `Report.parse?`: reports as text.
* `Report.save`, `Report.load`: reports on a disk.
-/

namespace Graft

/-- The outcome for one file. -/
structure FileResult where
  path : Bytes := []
  output : Bytes := []
  hash : Bytes := []
  unchanged : Bool := false
  chain : List Bytes := []
  dependencies : List Bytes := []
  error : Bytes := []
  kind : Bytes := []
  milliseconds : Float := 0
deriving BEq

structure Report where
  buildId : Bytes := []
  root : Bytes := []
  pattern : Bytes := []
  files : Option (List FileResult) := none
  succeeded : Int := 0
  failed : Int := 0
  unchanged : Int := 0
  milliseconds : Float := 0
deriving BEq

namespace Report

/-! ## As text -/

def optional (key : Bytes) (isEmpty : Bool) (j : Json) : List (Bytes × Json) :=
  if isEmpty then [] else [(key, j)]

def required (key : Bytes) (j : Json) : List (Bytes × Json) := [(key, j)]

def texts (l : List Bytes) : Json := .array (l.map Json.ofText)

def number (x : Float) : Json := .number (Decimal.text .document x)

def integer (n : Int) : Json := .number (Bytes.ofInt n)

def fileJson (f : FileResult) : Json :=
  .object (
    required "path" (.ofText f.path) ++
    optional "output" f.output.isEmpty (.ofText f.output) ++
    optional "hash" f.hash.isEmpty (.ofText f.hash) ++
    optional "unchanged" (!f.unchanged) (.bool true) ++
    optional "chain" f.chain.isEmpty (texts f.chain) ++
    optional "dependencies" f.dependencies.isEmpty (texts f.dependencies) ++
    optional "error" f.error.isEmpty (.ofText f.error) ++
    optional "kind" f.kind.isEmpty (.ofText f.kind) ++
    required "duration_ms" (number f.milliseconds))

def json (r : Report) : Json :=
  .object [
    ("build_id", .ofText r.buildId),
    ("root", .ofText r.root),
    ("pattern", .ofText r.pattern),
    ("files", (r.files.map fun l => Json.array (l.map fileJson)).getD .null),
    ("succeeded", integer r.succeeded),
    ("failed", integer r.failed),
    ("unchanged", integer r.unchanged),
    ("duration_ms", number r.milliseconds)]

def render (reports : List (Option Report)) : Bytes :=
  (Json.array (reports.map fun r => (r.map json).getD .null)).indented

/-! ## Out of text

A key that is given again does not start anew: a list is read in the places of the one before it,
so an item keeps what the new one does not say. -/

/-- Keys are compared without regard to case. -/
def sameKey : Json.KeyTest := fun name key => Lower.text key == name

def maxPlaces : Nat := 4096

/-- The members of an object whose unknown keys, if there are any, hold nothing too deep. -/
def members? (known : List Bytes) (j : Json) : Option (List (Bytes × Json)) := do
  let members ← j.members?
  let isFine (m : Bytes × Json) :=
    known.contains (Lower.text (Json.Text.decode m.1)) || m.2.places ≤ maxPlaces
  guard (members.all isFine)
  pure members

/-- A number. A zero that is written as an integer has no sign. -/
def number? : Json → Option Float
  | .number text =>
    let isInteger := text.all fun c => Byte.isDigit c || c == Byte.dash
    (Decimal.read? text).map fun x => if isInteger && x == 0 then 0 else x
  | _ => none

def texts? : Json.Update (Json.Slots Bytes) := Json.Slots.update (Json.replacing Json.text?) []

/-- The outcome for one file while it is read. -/
structure FileDraft where
  result : FileResult := {}
  chainSpare : List Bytes := []
  dependenciesSpare : List Bytes := []

def fileKeys : List Bytes :=
  ["path", "output", "hash", "unchanged", "chain", "dependencies", "error", "kind", "duration_ms"]

def file? : Json.Update FileDraft := fun old j =>
  if j.isNull then some old
  else do
    let members ← members? fileKeys j
    let file := old.result
    let text (name : Bytes) := Json.field? sameKey (Json.replacing Json.text?) name members
    let chain ← Json.field? sameKey texts? "chain" members ⟨file.chain, old.chainSpare⟩
    let dependencies ←
      Json.field? sameKey texts? "dependencies" members ⟨file.dependencies, old.dependenciesSpare⟩
    let result : FileResult := {
      path := ← text "path" file.path
      output := ← text "output" file.output
      hash := ← text "hash" file.hash
      unchanged := ←
        Json.field? sameKey (Json.replacing Json.flag?) "unchanged" members file.unchanged
      chain := chain.items
      dependencies := dependencies.items
      error := ← text "error" file.error
      kind := ← text "kind" file.kind
      milliseconds := ←
        Json.field? sameKey (Json.replacing number?) "duration_ms" members file.milliseconds
    }
    pure ⟨result, chain.spare, dependencies.spare⟩

/-- The outcomes for all files; `null` stands for none at all. -/
def files? : Json.Update (Option (Json.Slots FileDraft)) := fun old j =>
  if j.isNull then some none else (Json.Slots.update file? {} (old.getD {}) j).map some

def keys : List Bytes :=
  ["build_id", "root", "pattern", "files", "succeeded", "failed", "unchanged", "duration_ms"]

def ofJson? (j : Json) : Option (Option Report) :=
  if j.isNull then some none
  else do
    let members ← members? keys j
    let text (name : Bytes) := Json.field? sameKey (Json.replacing Json.text?) name members []
    let count (name : Bytes) := Json.field? sameKey (Json.replacing Json.integer?) name members 0
    let files ← Json.field? sameKey files? "files" members none
    pure (some {
      buildId := ← text "build_id"
      root := ← text "root"
      pattern := ← text "pattern"
      files := files.map fun slots => slots.items.map (·.result)
      succeeded := ← count "succeeded"
      failed := ← count "failed"
      unchanged := ← count "unchanged"
      milliseconds := ← Json.field? sameKey (Json.replacing number?) "duration_ms" members 0
    })

def parse? (s : Bytes) : Option (List (Option Report)) :=
  match Json.parse .lenient s with
  | some .null => some []
  | some (.array items) => items.mapM ofJson?
  | _ => none

/-! ## On a disk -/

def isCompressed (path : Bytes) : Bool := (Bytes.ofString ".gz").isSuffixOf (Lower.text path)

def save (d : Disk) (path : Bytes) (reports : List (Option Report)) : Except Disk.Failure Disk :=
  let text := render reports
  d.store path (if isCompressed path then Gzip.compress text else text)

def saveMessage (e : Disk.Failure) : Bytes := "write report: " ++ e.message

/-- Why there are no reports at a path. -/
inductive LoadError where
  | unreadable (e : Disk.Failure)
  | damaged
  | malformed

def load (d : Disk) (path : Bytes) : Except LoadError (List (Option Report)) :=
  match d.contents path with
  | .error e => .error (.unreadable e)
  | .ok data =>
    match if isCompressed path then Gzip.expand? data else some data with
    | none => .error .damaged
    | some text =>
      match parse? text with
      | none => .error .malformed
      | some reports => .ok reports

end Report

end Graft
