import Graft.Component.Write
import Graft.Extend.Override
import Graft.Markup.Render

/-!
# Graft.Extend.Merge

Splicing the overrides of a child into the extension points of its base. The points are collected
first and settled one after the other, so points that arrive inside an override stay open for the
next descendant, and points inside replaced content are only checked.

* `Splicing`: the forest and the points whose content has been replaced.
* `splice`: settles every point of a forest.
* `merge`: the component made of the spliced base and the blocks of the child.
-/

namespace Graft.Extend

open Markup

/-- Why two components cannot be merged. -/
inductive MergeError where
  | override (e : SourceError)
  | pointWithoutName
  | render (e : RenderError)
deriving DecidableEq, Repr

/-- A forest in the course of splicing. -/
structure Splicing where
  forest : List Node
  replaced : List Address

def Splicing.isDetached (s : Splicing) (address : Address) : Bool :=
  s.replaced.any fun point => point.isPrefixOf address && point != address

/-- Settles the point at an address of the forest as it was before splicing. -/
def Splicing.settle (unspliced : List Node) (all : List Override) (s : Splicing)
    (address : Address) : Except MergeError Splicing :=
  match usable ((get? address unspliced).bind (Node.attr? nameKey)) with
  | none => .error .pointWithoutName
  | some name =>
    -- the name was asked for first: replaced content does not excuse a point without one
    if s.isDetached address then .ok s
    else
      match Override.find? name all with
      | some content =>
        .ok { forest := modify (fun point => neutralize (point.withChildren content)) address s.forest
              replaced := address :: s.replaced }
      | none => .ok { s with forest := modify neutralize address s.forest }

def Splicing.settleAll (unspliced : List Node) (all : List Override) :
    Splicing → List Address → Except MergeError Splicing
  | s, [] => .ok s
  | s, address :: rest =>
    match s.settle unspliced all address with
    | .error e => .error e
    | .ok s => settleAll unspliced all s rest

/-- Settles every point of a forest: overridden points get the content of their override, the
others keep their own. -/
def splice (all : List Override) (forest : List Node) : Except MergeError (List Node) :=
  -- the points are listed before anything is replaced: those that an override brings in stay open
  match Splicing.settleAll forest all ⟨forest, []⟩ (addresses pointTag forest) with
  | .ok s => .ok s.forest
  | .error e => .error e

def merge (child base : Component) : Except MergeError Bytes :=
  match overrides (Markup.parse child.template.content) with
  | .error e => .error (.override e)
  | .ok all =>
    match splice all (Markup.parse base.template.content) with
    | .error e => .error e
    | .ok forest =>
      match render forest with
      | .error e => .error (.render e)
      | .ok body => .ok (assemble [⟨Directive.extendable, []⟩] body child.auxiliary)

end Graft.Extend
