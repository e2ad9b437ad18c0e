import Graft.Extend.Chain

/-!
# Graft.Cache

A bounded store of files in front of another reader. It keeps the files read last: a hit moves its
file to the front, and what does not fit falls off the end.

* `Cache`: the files kept, most recent first.
* `Cache.get?`, `Cache.add`: a hit, and a new file.
* `Cache.before`: a reader behind a cache.
-/

namespace Graft

open Extend (Files)

/-- Files kept in memory, most recent first. -/
structure Cache where
  size : Nat
  files : List (Bytes × Bytes)

/-- A cache has room for at least one file. -/
def Cache.sizeError : Bytes := "create file cache: must provide a positive size"

namespace Cache

def ofSize? (size : Int) : Option Cache := if size ≤ 0 then none else some ⟨size.toNat, []⟩

def get? (c : Cache) (path : Bytes) : Option (Bytes × Cache) :=
  match c.files.find? fun f => f.1 == path with
  | none => none
  | some (p, data) =>
    some (data, { c with files := (p, data) :: c.files.filter fun f => f.1 != path })

def add (c : Cache) (path data : Bytes) : Cache :=
  { c with files := ((path, data) :: c.files.filter fun f => f.1 != path).take c.size }

/-- A reader that asks the cache first. A read that fails leaves the cache as it is. -/
def before {σ ε : Type} (inner : Files σ ε) : Files (Cache × σ) ε where
  read path state :=
    match state.1.get? path with
    | some (data, cache) => (.ok data, cache, state.2)
    | none =>
      match inner.read path state.2 with
      | (.ok data, below) => (.ok data, state.1.add path data, below)
      | (.error e, below) => (.error e, state.1, below)
  register path state := (state.1, inner.register path state.2)

end Cache

end Graft
