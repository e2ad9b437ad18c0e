import Graft.Path

/-!
# Graft.Disk

A file system as a value: files, directories and symbolic links by absolute path. Paths are
followed segment by segment, links included, as a system call does.

* `Disk`: the entries and the working directory.
* `Disk.locate`: where a path leads.
* `Disk.contents`, `Disk.store`, `Disk.makeDirs`: the operations.
* `Disk.Failure`: an operation that failed, with the path it was given.
-/

namespace Graft

/-- What stands at a path. -/
inductive Disk.Entry where
  | file (content : Bytes)
  | directory
  | link (target : Bytes)
deriving DecidableEq, Repr

/-- The entries by the segments of their absolute path, and the working directory. The root is a
directory without an entry. -/
structure Disk where
  entries : List (List Bytes × Disk.Entry)
  workingDir : List Bytes

namespace Disk

/-- Why an operation failed. -/
inductive Reason where
  | notFound
  | notDirectory
  | isDirectory
  | alreadyThere
  | tooManyLinks
  | nameTooLong
  | invalid
deriving DecidableEq, Repr

def Reason.text : Reason → Bytes
  | notFound => "no such file or directory"
  | notDirectory => "not a directory"
  | isDirectory => "is a directory"
  | alreadyThere => "file exists"
  | tooManyLinks => "too many levels of symbolic links"
  | nameTooLong => "file name too long"
  | invalid => "invalid argument"

/-- A failed operation and the path it was given. -/
structure Failure where
  operation : Bytes
  path : Bytes
  reason : Reason
deriving DecidableEq, Repr

def Failure.message (f : Failure) : Bytes :=
  f.operation ++ " " ++ f.path ++ ": " ++ f.reason.text

/-- What stands at the segments of an absolute path, without following links. -/
def item? (d : Disk) (spot : List Bytes) : Option Entry :=
  if spot.isEmpty then some .directory else d.entries.lookup spot

def put (d : Disk) (spot : List Bytes) (e : Entry) : Disk :=
  { d with entries := (spot, e) :: d.entries.filter fun x => x.1 != spot }

/-- Where a path leads. -/
inductive Place where
  | found (spot : List Bytes) (e : Entry)
  /-- Nothing is there, but its directory is; `slash` tells whether the path asks for a directory. -/
  | vacant (spot : List Bytes) (slash : Bool)

def maxLinks : Nat := 40

def maxName : Nat := 255

def maxPath : Nat := 4095

/-- Walks along segments from a directory. A link is handed over with the directory its target starts
from and the segments that are left then; one at the end is the place itself unless asked for. -/
def walk (d : Disk) (last : Bool) (jump : List Bytes → List Bytes → Except Reason Place) :
    (here segments : List Bytes) → Except Reason Place
  | here, [] => .ok (.found here .directory)
  | here, segment :: rest =>
    if segment = [] ∨ segment = Path.current then d.walk last jump here rest
    else if segment = Path.parent then d.walk last jump here.dropLast rest
    else if maxName < segment.length then .error .nameTooLong
    else
      let next := here ++ [segment]
      match d.item? next with
      | none =>
        if rest.all List.isEmpty then .ok (.vacant next (!rest.isEmpty)) else .error .notFound
      | some .directory => d.walk last jump next rest
      | some (.file content) =>
        if rest.isEmpty then .ok (.found next (.file content)) else .error .notDirectory
      | some (.link target) =>
        if rest.isEmpty && !last then .ok (.found next (.link target))
        else jump (if Path.isAbsolute target then [] else here) (target.split Byte.slash ++ rest)

/-- Follows segments from a directory; at most `links` links are followed. -/
def follow (d : Disk) (last : Bool) :
    (links : Nat) → (here segments : List Bytes) → Except Reason Place
  | 0 => d.walk last fun _ _ => .error .tooManyLinks
  | links + 1 => d.walk last (d.follow last links)

def locate (d : Disk) (last : Bool) (path : Bytes) : Except Reason Place :=
  if path.isEmpty then .error .notFound
  else if path.contains Byte.nul then .error .invalid
  else if maxPath < path.length then .error .nameTooLong
  else
    let origin := if Path.isAbsolute path then [] else d.workingDir
    d.follow last maxLinks origin (path.split Byte.slash)

def contents (d : Disk) (path : Bytes) : Except Failure Bytes :=
  match d.locate true path with
  | .error reason => .error ⟨"open", path, reason⟩
  | .ok (.vacant _ _) => .error ⟨"open", path, .notFound⟩
  | .ok (.found _ (.file content)) => .ok content
  | .ok (.found _ _) => .error ⟨"read", path, .isDirectory⟩

def store (d : Disk) (path content : Bytes) : Except Failure Disk :=
  match d.locate true path with
  | .error reason => .error ⟨"open", path, reason⟩
  | .ok (.vacant spot false) => .ok (d.put spot (.file content))
  | .ok (.vacant _ true) => .error ⟨"open", path, .isDirectory⟩
  | .ok (.found spot (.file _)) => .ok (d.put spot (.file content))
  | .ok (.found _ _) => .error ⟨"open", path, .isDirectory⟩

def append (d : Disk) (path content : Bytes) : Except Failure Disk :=
  match d.locate true path with
  | .ok (.found _ (.file old)) => d.store path (old ++ content)
  | _ => d.store path content

def stat (d : Disk) (path : Bytes) : Except Failure Entry :=
  match d.locate true path with
  | .error reason => .error ⟨"stat", path, reason⟩
  | .ok (.vacant _ _) => .error ⟨"stat", path, .notFound⟩
  | .ok (.found _ e) => .ok e

def makeDir (d : Disk) (path : Bytes) : Except Failure Disk :=
  match d.locate false path with
  | .error reason => .error ⟨"mkdir", path, reason⟩
  | .ok (.found _ _) => .error ⟨"mkdir", path, .alreadyThere⟩
  | .ok (.vacant spot _) => .ok (d.put spot .directory)

/-- The path above a path, as written: without its last segment and the slash before it. -/
def above (path : Bytes) : Bytes :=
  let behind := path.reverse.dropWhile (· == Byte.slash)
  ((behind.dropWhile (· != Byte.slash)).drop 1).reverse

/-- Makes the last directory of a path; one that is there by then will do. -/
def makeLast (d : Disk) (path : Bytes) : Except Failure Unit × Disk :=
  match d.makeDir path with
  | .ok d => (.ok (), d)
  | .error e =>
    match d.locate false path with
    | .ok (.found _ .directory) => (.ok (), d)
    | _ => (.error e, d)

/-- Makes a directory and those above it; `levels` of them may be missing. What was made before a
failure stays. -/
def makeDirsUpTo : (levels : Nat) → Disk → Bytes → Except Failure Unit × Disk
  | 0, d, path => d.makeLast path
  | levels + 1, d, path =>
    match d.stat path with
    | .ok .directory => (.ok (), d)
    | .ok _ => (.error ⟨"mkdir", path, .notDirectory⟩, d)
    | .error _ =>
      -- whatever went wrong, the directories above are made first
      if (above path).isEmpty then d.makeLast path
      else
        match makeDirsUpTo levels d (above path) with
        | (.error e, d) => (.error e, d)
        | (.ok (), d) => d.makeLast path

def makeDirs (d : Disk) (path : Bytes) : Except Failure Unit × Disk :=
  makeDirsUpTo path.length d path

/-- The names in a directory, given by its absolute segments, with what stands there. -/
def children (d : Disk) (spot : List Bytes) : List (Bytes × Entry) :=
  d.entries.filterMap fun (p, e) =>
    match p.getLast? with
    | some name => if p.dropLast = spot then some (name, e) else none
    | none => none

def removeAll (d : Disk) (spot : List Bytes) : Disk :=
  { d with entries := d.entries.filter fun x => !spot.isPrefixOf x.1 }

/-- Puts a file at an absolute path and makes the directories above it. -/
def plant (d : Disk) (spot : List Bytes) (e : Entry) : Disk :=
  let parents := (List.range spot.length).map fun n => spot.take n
  let missing := parents.filter fun p => (d.item? p).isNone
  (missing.foldl (fun d p => d.put p .directory) d).put spot e

def workingPath (d : Disk) : Bytes := Path.spell true d.workingDir

def absolute (d : Disk) (path : Bytes) : Bytes :=
  if Path.isAbsolute path then Path.clean path else Path.join d.workingPath path

/-- The regular files below an absolute path, with their path from there. -/
def filesBelow (d : Disk) (spot : List Bytes) : List (Bytes × Bytes) :=
  d.entries.filterMap fun (p, e) =>
    match e with
    | .file content =>
      if spot.isPrefixOf p && p != spot then
        some (Bytes.joinWith [Byte.slash] (p.drop spot.length), content)
      else none
    | _ => none

end Disk

end Graft
