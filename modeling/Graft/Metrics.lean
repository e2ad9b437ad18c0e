import Graft.Text.Bytes

/-!
# Graft.Metrics

Counts of transforms and of requests.

* `Metrics.Histogram`: observations by upper bound.
* `Metrics`: the collectors of one process.
* `Metrics.recordTransform`, `Metrics.recordRequest`: one more of each.
-/

namespace Graft

/-- Observations of a whole number, counted up to each bound. -/
structure Metrics.Histogram where
  buckets : List (Nat × Nat)
  count : Nat
  sum : Nat

namespace Metrics.Histogram

def empty (bounds : List Nat) : Histogram := ⟨bounds.map (·, 0), 0, 0⟩

def observe (h : Histogram) (n : Nat) : Histogram :=
  { buckets := h.buckets.map fun (bound, seen) => (bound, if n ≤ bound then seen + 1 else seen)
    count := h.count + 1
    sum := h.sum + n }

end Metrics.Histogram

structure Metrics where
  transforms : List ((Bytes × Bytes) × Nat)
  durations : Nat
  chainDepth : Metrics.Histogram
  requests : List ((Bytes × Bytes × Bytes) × Nat)
  requestDurations : List ((Bytes × Bytes) × Nat)

namespace Metrics

def depthBounds : List Nat := [0, 1, 2, 3, 4, 6, 8, 16]

def empty : Metrics := ⟨[], 0, .empty depthBounds, [], []⟩

def bump {α : Type} [BEq α] (key : α) : List (α × Nat) → List (α × Nat)
  | [] => [(key, 1)]
  | (k, n) :: rest => if k == key then (k, n + 1) :: rest else (k, n) :: bump key rest

/-- Records a transform: its kind is empty on success, and only then its depth counts. -/
def recordTransform (m : Metrics) (kind : Bytes) (depth : Nat) : Metrics :=
  let status : Bytes := if kind.isEmpty then "ok" else "error"
  { m with
    transforms := bump (status, kind) m.transforms
    durations := m.durations + 1
    chainDepth := if kind.isEmpty then m.chainDepth.observe depth else m.chainDepth }

def recordRequest (m : Metrics) (method path status : Bytes) : Metrics :=
  { m with
    requests := bump (method, path, status) m.requests
    requestDurations := bump (method, path) m.requestDurations }

end Metrics

end Graft
