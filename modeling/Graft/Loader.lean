import Graft.Charset.Decode
import Graft.Charset.Sniff
import Graft.Disk
import Graft.Discovery
import Graft.Extend.Chain

/-!
# Graft.Loader

Reading component sources from a disk. Reads can be confined to a root, binary files are refused,
and text in another charset is decoded.

* `ReadError`: why a source cannot be read.
* `Loader`: the root reads are confined to, and how charsets are told.
* `Loader.read`, `Loader.files`: one source, and the loader as a place to read from.
-/

namespace Graft

/-- Why a source cannot be read. -/
inductive ReadError where
  | canceled
  | outsideRoot (path : Bytes)
  | notText (path : Bytes)
  | missing (text : Bytes)
  | failed (text : Bytes)
deriving DecidableEq, Repr

def ReadError.message : ReadError → Bytes
  | canceled => canceledText
  | outsideRoot path => "path outside allowed root: " ++ path
  | notText path => "file is not text: " ++ path
  | missing text => text
  | failed text => text

structure Loader where
  root : Bytes
  detector : Charset.Detector

namespace Loader

/-- A loader for a root given by its text; an empty one does not confine. -/
def ofRoot (d : Disk) (root : Bytes) : Loader :=
  ⟨if root.isEmpty then Path.current else d.absolute root, .listed⟩

/-- Whether a path lies at or below the root, by its text alone. -/
def allows (l : Loader) (path : Bytes) : Bool :=
  if l.root.isEmpty ∨ l.root = Path.current then true
  else
    match Path.relative? l.root (Path.clean path) with
    | none => false
    | some relative => relative != Path.parent && !(Path.parent ++ [Byte.slash]).isPrefixOf relative

def read (l : Loader) (d : Disk) (path : Bytes) : Except ReadError Bytes :=
  if !l.allows path then .error (.outsideRoot path)
  else
    match d.contents path with
    | .error e =>
      let text : Bytes := "read " ++ path ++ ": " ++ e.message
      .error (if e.reason = .notFound then .missing text else .failed text)
    | .ok data =>
      if Charset.isText data then .ok (l.detector.decode data) else .error (.notText path)

theorem read_eq_outsideRoot_iff {l : Loader} {d : Disk} {path p : Bytes} :
    l.read d path = .error (.outsideRoot p) ↔ l.allows path = false ∧ p = path := by
  rw [read]
  cases l.allows path with
  | false => simp [eq_comm]
  | true =>
    rw [Bool.not_true, if_neg Bool.false_ne_true]
    refine ⟨fun h => ?_, fun h => by cases h.1⟩
    split at h
    · rw [Except.error.injEq] at h
      split at h <;> cases h
    · split at h <;> cases h

/-- The loader as a place to read from; once called off, every read fails. -/
def files (l : Loader) (canceled : Bool) : Extend.Files Disk ReadError where
  read path d := (if canceled then .error .canceled else l.read d path, d)

end Loader

end Graft
