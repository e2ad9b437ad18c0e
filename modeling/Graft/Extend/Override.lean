import Graft.Component.Read
import Graft.Markup.Edit

/-!
# Graft.Extend.Override

The overrides a child declares. They stand in its first top-level `extensions` element, one
`extension` element for each point; of two for the same point the first counts.

* `Override`: a point and what replaces its content.
* `overrides`: the overrides of a forest.
* `neutralize`: turns an extension point into a plain `template` element.
-/

namespace Graft.Extend

open Markup

def pointTag : Bytes := "extension-point"

def containerTag : Bytes := "extensions"

def overrideTag : Bytes := "extension"

/-- What a point is called once it is settled. -/
def neutralTag : Bytes := "template"

def nameKey : Bytes := "name"

/-- The key under which an override has the name of its point. -/
def pointKey : Bytes := "point"

/-- What replaces the content of the point of a name. -/
structure Override where
  point : Bytes
  content : List Node

def usable (name : Option Bytes) : Option Bytes := name.filter fun n => !n.isEmpty

/-- Adds the overrides among the children of the container to those found so far. -/
def collect : List Override → List Node → Except SourceError (List Override)
  | found, [] => .ok found
  | found, node :: rest =>
    if node.isElement overrideTag then
      match usable (node.attr? pointKey) with
      | none => .error .overrideWithoutPoint
      | some point =>
        if found.any (fun o => o.point == point) then collect found rest
        else collect (found ++ [⟨point, node.children⟩]) rest
    else collect found rest

/-- The overrides of a child's template, in the order they are declared. -/
def overrides (forest : List Node) : Except SourceError (List Override) :=
  match topLevel (.named containerTag) forest with
  | [] => .ok []
  | container :: _ => collect [] container.children

def Override.find? (name : Bytes) (all : List Override) : Option (List Node) :=
  (all.find? fun o => o.point == name).map Override.content

/-- Turns an extension point into a plain `template` element without its name. -/
def neutralize (node : Node) : Node := (node.rename neutralTag).withoutAttr nameKey

end Graft.Extend
