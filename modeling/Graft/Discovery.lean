import Graft.Disk
import Graft.Glob
import Graft.Text.Quoted

/-!
# Graft.Discovery

Finding the files of a tree by pattern. Symbolic links are entries like files and are not followed;
a directory that an exclude pattern matches is not entered.

* `DiscoveryError`: why nothing can be found.
* `Discovery.visit`: the files below a directory.
* `discover`: the absolute paths of the files, in bytewise order.
-/

namespace Graft

/-- Why a tree cannot be searched. -/
inductive DiscoveryError where
  | invalidPattern (pattern : Bytes)
  | invalidExclude (pattern : Bytes)
  | unreachable (root : Bytes) (e : Disk.Failure)
  | canceled (root : Bytes)
  | notDirectory (root : Bytes)
deriving DecidableEq, Repr

/-- What an operation reports when it is called off. -/
def canceledText : Bytes := "context canceled"

namespace DiscoveryError

def message : DiscoveryError → Bytes
  | invalidPattern p => "invalid pattern " ++ Quoted.quote p
  | invalidExclude p => "invalid exclude pattern " ++ Quoted.quote p
  | unreachable root e => "walk " ++ root ++ ": " ++ e.message
  | canceled root => "walk " ++ root ++ ": " ++ canceledText
  | notDirectory root => "walk " ++ root ++ ": readdirent: not a directory"

end DiscoveryError

namespace Discovery

def isExcluded (exclude : List Bytes) (relative : Bytes) : Bool :=
  exclude.any fun pattern => Glob.accepts pattern relative

/-- A name below a relative path; the start of the search has the empty one. -/
def below (relative name : Bytes) : Bytes :=
  if relative.isEmpty then name else relative ++ Byte.slash :: name

def visit (d : Disk) (pattern : Bytes) (exclude : List Bytes) :
    (levels : Nat) → (spot : List Bytes) → (relative : Bytes) → List Bytes
  | 0, _, _ => []
  | levels + 1, spot, relative =>
    (d.children spot).flatMap fun (name, e) =>
      let path := below relative name
      if isExcluded exclude path then []
      else
        match e with
        | .directory => visit d pattern exclude levels (spot ++ [name]) path
        -- a link counts as a file, also one to a directory
        | _ => if Glob.accepts pattern path then [path] else []

def levels (d : Disk) : Nat := d.entries.foldl (fun n e => max n e.1.length) 0 + 1

end Discovery

/-- The absolute paths of the files below a root whose relative path matches a pattern, in bytewise
order. -/
def discover (d : Disk) (canceled : Bool) (root pattern : Bytes) (exclude : List Bytes) :
    Except DiscoveryError (List Bytes) :=
  if !Glob.isValid pattern then .error (.invalidPattern pattern)
  else
    match exclude.find? fun p => !Glob.isValid p with
    | some p => .error (.invalidExclude p)
    | none =>
      let root := d.absolute root
      match d.stat root with
      | .error e => .error (.unreachable root e)
      | .ok _ =>
        if canceled then .error (.canceled root)
        else
          match d.locate true root with
          | .ok (.found spot .directory) =>
            let found := Discovery.visit d pattern exclude (Discovery.levels d) spot []
            .ok (Bytes.sort (found.map fun path => Path.join root path))
          | _ => .error (.notDirectory root)

end Graft
