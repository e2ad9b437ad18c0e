import Graft.Markup.Node

/-!
# Graft.Markup.Edit

Finding elements of a forest and changing them in place. An element is named by its address: the
position among its siblings at each level, outermost first.

* `addresses`: where the elements of a name stand, in document order.
* `get?`, `modify`: the node at an address.
* `Node.rename`, `Node.withoutAttr`, `Node.withChildren`: changes of one node.
* `replaceChildren`: copies the children of one element into another of the same forest.
* `topLevel`: the outermost elements of a name.
-/

namespace Graft.Markup

/-- Positions among siblings, outermost first. -/
abbrev Address := List Nat

namespace Node

def isElement (name : Bytes) : Node → Bool
  | .element n _ _ => n == name
  | _ => false

def children : Node → List Node
  | .element _ _ children => children
  | _ => []

def attrs : Node → List Attr
  | .element _ attrs _ => attrs
  | _ => []

def attr? (key : Bytes) (node : Node) : Option Bytes := Attr.find? key node.attrs

def rename (name : Bytes) : Node → Node
  | .element _ attrs children => .element name attrs children
  | node => node

def withoutAttr (key : Bytes) : Node → Node
  | .element name attrs children => .element name (Attr.without key attrs) children
  | node => node

def withChildren (children : List Node) : Node → Node
  | .element name attrs _ => .element name attrs children
  | node => node

end Node

mutual

/-- Addresses of the elements called `name` in a node that stands at position `i`. -/
def addressesAt (name : Bytes) (i : Nat) : Node → List Address
  | .element n _ children =>
    let below := (addressesFrom name 0 children).map (i :: ·)
    if n = name then [i] :: below else below
  | _ => []

/-- The same for siblings, the first of which stands at position `i`. -/
def addressesFrom (name : Bytes) (i : Nat) : List Node → List Address
  | [] => []
  | node :: rest => addressesAt name i node ++ addressesFrom name (i + 1) rest

end

/-- Where the elements called `name` stand, in document order. -/
def addresses (name : Bytes) (forest : List Node) : List Address := addressesFrom name 0 forest

def get? : Address → List Node → Option Node
  | [], _ => none
  | [i], forest => forest[i]?
  | i :: j :: rest, forest =>
    match forest[i]? with
    | some node => get? (j :: rest) node.children
    | none => none

/-- Changes the node at an address; an address that names nothing changes nothing. -/
def modify (f : Node → Node) : Address → List Node → List Node
  | [], forest => forest
  | [i], forest => forest.modify i f
  | i :: j :: rest, forest =>
    forest.modify i fun node => node.withChildren (modify f (j :: rest) node.children)

def appendChild (address : Address) (child : Node) (forest : List Node) : List Node :=
  modify (fun node => node.withChildren (node.children ++ [child])) address forest

def childrenAt (address : Address) (forest : List Node) : List Node :=
  match get? address forest with
  | some node => node.children
  | none => []

/-- Gives the element at `dst` the children of the one at `src`, one copy after the other. The old
children go first, so an element cannot be its own source; a source around `dst` is copied as it
stands when its turn comes, with what `dst` has received so far. -/
def replaceChildren (dst src : Address) (forest : List Node) : List Node :=
  let cleared := modify (Node.withChildren []) dst forest
  let copies := childrenAt src forest
  if dst = src then cleared
  else if dst.isPrefixOf src then
    -- the source lay inside and is gone from the tree: its children are taken from the old one
    copies.foldl (fun current child => appendChild dst child current) cleared
  else
    (List.range copies.length).foldl (fun current i =>
      match (childrenAt src current)[i]? with
      | some child => appendChild dst child current
      | none => current) cleared

/-- A test on names: any name, or one of them. -/
inductive NameTest where
  | any
  | named (name : Bytes)

/-- The bytes that separate steps, conditions and arguments of a path query. -/
def queryBytes : Bytes := "[]()/*@|=<>!+,'\"$: \t\n\r"

/-- Reads a name test: a star, or a name without the bytes of a path query. -/
def NameTest.ofBytes? (s : Bytes) : Option NameTest :=
  if s = [Byte.star] then some .any
  else if s.isEmpty || s.any queryBytes.contains then none
  else some (.named s)

def NameTest.accepts : NameTest → Node → Bool
  | .any, .element _ _ _ => true
  | .named name, node => node.isElement name
  | _, _ => false

def topLevel (test : NameTest) (forest : List Node) : List Node := forest.filter test.accepts

end Graft.Markup
