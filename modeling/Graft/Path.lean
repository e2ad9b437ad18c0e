import Graft.Text.Bytes

/-!
# Graft.Path

Slash-separated paths, evaluated by their text alone.

* `Path.evaluate`: the segments a list of segments leads to.
* `Path.clean`: the shortest spelling of a path.
* `Path.join`, `Path.dir`, `Path.relative?`: composing, taking apart and comparing paths.
* `Path.base`: the path a component's base is found at.
-/

namespace Graft.Path

def current : Bytes := "."

def parent : Bytes := ".."

def isAbsolute (p : Bytes) : Bool := p.head? == some Byte.slash

/-- Goes on by one segment. `done` holds the segments so far, last first; `..` takes back the last
one, and what cannot be taken back is kept unless the path starts at the root. -/
def advance (rooted : Bool) (done : List Bytes) (segment : Bytes) : List Bytes :=
  if segment = [] ∨ segment = current then done
  else if segment = parent then
    match done with
    | last :: rest => if last = parent then segment :: done else rest
    | [] => if rooted then [] else [segment]
  else segment :: done

/-- The segments a list of segments leads to, from the root or from the current directory. -/
def evaluate (rooted : Bool) (segments : List Bytes) : List Bytes :=
  (segments.foldl (advance rooted) []).reverse

/-- The segments of a path after evaluation. -/
def segments (p : Bytes) : List Bytes := evaluate (isAbsolute p) (p.split Byte.slash)

/-- Writes segments down, from the root or from the current directory. -/
def spell (rooted : Bool) (segments : List Bytes) : Bytes :=
  let body := Bytes.joinWith [Byte.slash] segments
  if rooted then Byte.slash :: body else if segments.isEmpty then current else body

/-- The shortest spelling of a path: no empty, `.` or `..` segment that could be left out. -/
def clean (p : Bytes) : Bytes := spell (isAbsolute p) (segments p)

/-- One path behind another; empty ones are left out. -/
def join (a b : Bytes) : Bytes :=
  if a.isEmpty then (if b.isEmpty then [] else clean b) else clean (a ++ Byte.slash :: b)

def upToSlash (p : Bytes) : Bytes := (p.reverse.dropWhile (· != Byte.slash)).reverse

def dir (p : Bytes) : Bytes := clean (upToSlash p)

def lastSegment (p : Bytes) : Bytes := (p.reverse.takeWhile (· != Byte.slash)).reverse

/-- The extension of a path: its last segment from the last dot on. -/
def extension (p : Bytes) : Bytes :=
  let name := (lastSegment p).reverse
  if name.contains Byte.dot then
    Byte.dot :: (name.takeWhile (· != Byte.dot)).reverse
  else []

def dropCommon : List Bytes → List Bytes → List Bytes × List Bytes
  | a :: as, b :: bs => if a = b then dropCommon as bs else (a :: as, b :: bs)
  | as, bs => (as, bs)

/-- The path that leads from `root` to `target`, if their spelling shows one. -/
def relative? (root target : Bytes) : Option Bytes :=
  if isAbsolute root ≠ isAbsolute target then none
  else
    let (up, down) := dropCommon (segments root) (segments target)
    if up.head? = some parent then none
    else some (spell false (up.map (fun _ => parent) ++ down))

def base (origin target : Bytes) : Bytes :=
  if isAbsolute target then clean target else join (dir origin) target

end Graft.Path
