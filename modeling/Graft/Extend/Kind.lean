import Graft.Component.Read

/-!
# Graft.Extend.Kind

Stable labels for failures. A failure has a list of causes, outermost first; its kind is that of
the cause that ranks highest, because an ancestor's failure wraps the failure of its source.

* `Cause`: what a failure names as its reason.
* `Kind`, `Kind.ofCauses`: the label of a failure.
-/

namespace Graft.Extend

/-- What a failure names as its reason. -/
inductive Cause where
  | circularExtends
  | maxDepth
  | missingBase
  | malformedAncestor
  | malformedSource
  | other (text : Bytes)
deriving DecidableEq, Repr

def Cause.text : Cause → Bytes
  | circularExtends => "circular extends chain"
  | maxDepth => "extends chain too deep"
  | missingBase => "base component not readable"
  | malformedAncestor => "malformed ancestor component"
  | malformedSource => SourceError.heading
  | other text => text

/-- The label of a failure. -/
inductive Kind where
  | circularExtends
  | maxDepth
  | missingBase
  | malformedAncestor
  | malformedSource
  | internal
deriving DecidableEq, Repr

def Kind.label : Kind → Bytes
  | circularExtends => "circular_extends"
  | maxDepth => "max_depth"
  | missingBase => "missing_base"
  | malformedAncestor => "malformed_ancestor"
  | malformedSource => "malformed_source"
  | internal => "internal"

/-- The causes that have a kind of their own, highest rank first. -/
def Kind.ranking : List (Cause × Kind) :=
  [(.circularExtends, .circularExtends), (.maxDepth, .maxDepth), (.missingBase, .missingBase),
   (.malformedAncestor, .malformedAncestor), (.malformedSource, .malformedSource)]

def Kind.ofCauses (causes : List Cause) : Kind :=
  match ranking.find? fun (cause, _) => causes.contains cause with
  | some (_, kind) => kind
  | none => .internal

/-- The text of a failure that only names its causes. -/
def Cause.chainText (causes : List Cause) : Bytes := Bytes.joinWith ": " (causes.map Cause.text)

end Graft.Extend
