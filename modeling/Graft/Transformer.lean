import Graft.Extend.Transform
import Graft.Log
import Graft.Metrics

/-!
# Graft.Transformer

A transform as a service sees it: one log entry and one record in the metrics for each, whatever
its outcome.

* `Extend.Transformed.entry`: what is logged about a transform.
* `Extend.Transformed.recorded`: the metrics after it.
-/

namespace Graft.Extend.Transformed

variable {σ ε : Type}

def logger : Bytes := "transform"

def entry (describe : ε → Bytes) (file : Bytes) (t : Transformed σ ε) : Log.Entry :=
  match t.code with
  | .ok _ =>
    { level := .debug
      names := [logger]
      message := "transform complete"
      fields := [("file", .text file), ("chain", .texts t.chain)] }
  | .error e =>
    { level := .error
      names := [logger]
      message := "transform failed"
      fields :=
        [("file", .text file), ("kind", .text e.kind.label),
          ("dependencies", .texts t.dependencies), ("error", .text (e.message describe))] }

def recorded (t : Transformed σ ε) (m : Metrics) : Metrics :=
  match t.code with
  | .ok _ => m.recordTransform [] t.chain.length
  | .error e => m.recordTransform e.kind.label 0

end Graft.Extend.Transformed
