import Graft.Build
import Graft.Text.Lower
import Graft.Toml
import Graft.Yaml

/-!
# Graft.Manifest

A description of a build of several trees, in one of two formats. Relative roots and outputs are
taken from where the manifest stands.

* `Manifest`: the trees and the number of workers.
* `Manifest.Format`: how a text is read.
* `Manifest.shape`: what a manifest is described by.
* `Manifest.ofText?`: the manifest a text describes.
* `Manifest.load`: the manifest at a path.
-/

namespace Graft

/-- A build of several trees. -/
structure Manifest where
  /-- How many files are worked on at once; zero leaves it open. -/
  workers : Int
  targets : List Target
deriving DecidableEq, Repr

namespace Manifest

/-! ## Formats -/

/-- A format: how a text is read as a document of a shape. -/
structure Format where
  read? : Shape → Bytes → Option Document

def yaml : Format := ⟨Yaml.read?⟩

def toml : Format := ⟨Toml.read?⟩

def Format.ofExtension? (extension : Bytes) : Option Format :=
  let extension := Lower.text extension
  if extension = Bytes.ofString ".yaml" ∨ extension = Bytes.ofString ".yml" then some yaml
  else if extension = Bytes.ofString ".toml" then some toml
  else none

/-! ## Fields -/

def workersField : Bytes := "workers"

def targetsField : Bytes := "targets"

def rootField : Bytes := "root"

def patternField : Bytes := "pattern"

def outField : Bytes := "out"

def excludeField : Bytes := "exclude"

/-- What a tree is described by. -/
def targetShape : Shape :=
  .table [(rootField, .text), (patternField, .text), (outField, .text), (excludeField, .list .text)]

def shape : Shape := .table [(workersField, .integer), (targetsField, .list targetShape)]

/-- The field of a name, blank if there is none. -/
def fieldOf (d : Document) (name : Bytes) : Document := (d.get? name).getD (.list [])

def targetOf (d : Document) : Target where
  root := (fieldOf d rootField).asText
  pattern := (fieldOf d patternField).asText
  out := (fieldOf d outField).asText
  exclude := (fieldOf d excludeField).items.map Document.asText

def ofDocument (d : Document) : Manifest where
  workers := (fieldOf d workersField).asInteger
  targets := (fieldOf d targetsField).items.map targetOf

def ofText? (f : Format) (s : Bytes) : Option Manifest := (f.read? shape s).map ofDocument

/-! ## Loading -/

/-- Why there is no manifest at a path. -/
inductive LoadError where
  | unreadable (e : Disk.Failure)
  | unsupported (extension : Bytes)
  | malformed (path : Bytes)
  | noTargets (path : Bytes)
  | noRoot (path : Bytes) (index : Nat)
deriving DecidableEq, Repr

def LoadError.message : LoadError → Bytes
  | unreadable e => "read manifest: " ++ e.message
  | unsupported extension => "unsupported manifest format " ++ Quoted.quote extension
  | malformed path => "parse manifest " ++ path ++ ": malformed document"
  | noTargets path => "manifest " ++ path ++ " declares no targets"
  | noRoot path index => "manifest " ++ path ++ ": target " ++ Bytes.ofNat index ++ " has no root"

def placed (dir path : Bytes) : Bytes := if Path.isAbsolute path then path else Path.join dir path

def settle (dir : Bytes) (t : Target) : Target :=
  { t with
    pattern := if t.pattern.isEmpty then Target.defaultPattern else t.pattern
    root := placed dir t.root
    out := if t.out.isEmpty then [] else placed dir t.out }

def load (d : Disk) (path : Bytes) : Except LoadError Manifest :=
  match d.contents path with
  | .error e => .error (.unreadable e)
  | .ok data =>
    match Format.ofExtension? (Path.extension path) with
    | none => .error (.unsupported (Path.extension path))
    | some format =>
      match ofText? format data with
      | none => .error (.malformed path)
      | some m =>
        if m.targets.isEmpty then .error (.noTargets path)
        else
          match m.targets.findIdx? fun t => t.root.isEmpty with
          | some index => .error (.noRoot path index)
          | none => .ok { m with targets := m.targets.map (settle (Path.dir path)) }

end Manifest

end Graft
