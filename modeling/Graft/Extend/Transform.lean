import Graft.Extend.Chain

/-!
# Graft.Extend.Transform

From a component to compiler input: the chain is resolved, the points still open are settled with
their own content, the padding of the script is taken back, and the marker is dropped.

* `stripPadding`: a script without the filler lines in front of it.
* `finalize`: a resolved component as compiler input.
* `Files.recorded`: files that remember what they have been told of.
* `transform`: resolution and finishing together.
-/

namespace Graft.Extend

open Markup

variable {σ ε : Type}

def stripPadding : Bytes → Bytes
  | a :: b :: c :: rest =>
    if a = Byte.slash ∧ b = Byte.slash ∧ c = Byte.lf then stripPadding rest else a :: b :: c :: rest
  | short => short

/-- Settles every point with its own content. -/
def closePoints (forest : List Node) : List Node :=
  (addresses pointTag forest).foldl (fun current address => modify neutralize address current) forest

/-- A resolved component as compiler input. One that is not marked extendable stays as it is. -/
def finalize (source : Bytes) : Except (ChainError ε) Bytes :=
  match Component.parse .none source with
  | .error e => .error (.reparse e)
  | .ok component =>
    if component.template.isExtendable then
      let script := component.auxiliary.script.map fun b =>
        { b with content := stripPadding b.content }
      match render (closePoints (Markup.parse component.template.content)) with
      | .error e => .error (.render e)
      | .ok body => .ok (assemble [] body { component.auxiliary with script := script })
    else .ok source

/-- Files that remember what they have been told of. -/
structure Recorder (σ : Type) where
  seen : List Bytes
  below : σ

def Recorder.list (r : Recorder σ) : List Bytes := Bytes.sort r.seen

def Files.recorded (files : Files σ ε) : Files (Recorder σ) ε where
  read path r :=
    let (data, below) := files.read path r.below
    (data, { r with below := below })
  register path r := ⟨r.seen.insert path, files.register path r.below⟩

/-- The outcome of a transform. The ancestors are listed also when it fails. -/
structure Transformed (σ ε : Type) where
  code : Except (ChainError ε) Bytes
  chain : List Bytes
  dependencies : List Bytes
  state : σ

def transform (files : Files σ ε) (opts : Options) (path source : Bytes) (state : σ) :
    Transformed σ ε :=
  let (resolved, walk) := resolve files.recorded opts path source ⟨[], state⟩
  ⟨resolved.bind finalize, walk.chain, walk.state.list, walk.state.below⟩

end Graft.Extend
