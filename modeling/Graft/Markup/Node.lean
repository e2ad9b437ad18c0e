import Graft.Markup.Tokens

/-!
# Graft.Markup.Node

Template markup as a forest. The builder implies no tags and moves none: an end tag without an
open element is dropped, and what is open at the end of the text is closed there.

* `Node`: text, comment, doctype or element.
* `isVoid`: the elements that never have children.
* `Frame`, `Builder`: the elements still open, innermost first.
* `parse`: the forest of a text.
-/

namespace Graft.Markup

/-- A node of a template. -/
inductive Node where
  | text (data : Bytes)
  | comment (data : Bytes)
  | doctype (data : Bytes)
  | element (name : Bytes) (attrs : List Attr) (children : List Node)
deriving Repr

/-- Names of the elements that never have children. A name in another case is a component. -/
def voidNames : List Bytes :=
  ["area", "base", "br", "col", "embed", "hr", "img", "input", "keygen", "link", "meta", "param",
   "source", "track", "wbr"]

def isVoid (name : Bytes) : Bool := voidNames.contains name

/-- The first value of a key. -/
def Attr.find? (key : Bytes) (attrs : List Attr) : Option Bytes :=
  (attrs.find? fun a => a.key == key).map Attr.val

def Attr.without (key : Bytes) (attrs : List Attr) : List Attr := attrs.filter fun a => a.key != key

/-- An element still open; its children so far stand last first. -/
structure Frame where
  name : Bytes
  attrs : List Attr
  children : List Node

/-- A forest under construction. -/
structure Builder where
  /-- Finished nodes of the outermost level, last first. -/
  done : List Node
  frames : List Frame

namespace Builder

def empty : Builder := ⟨[], []⟩

def append (b : Builder) (node : Node) : Builder :=
  match b.frames with
  | [] => { b with done := node :: b.done }
  | frame :: outer => { b with frames := { frame with children := node :: frame.children } :: outer }

def enter (b : Builder) (name : Bytes) (attrs : List Attr) : Builder :=
  { b with frames := ⟨name, attrs, []⟩ :: b.frames }

def leave (b : Builder) : Builder :=
  match b.frames with
  | [] => b
  | frame :: outer =>
    { b with frames := outer }.append (.element frame.name frame.attrs frame.children.reverse)

/-- Closes the `n` innermost open elements. -/
def leaveMany : Nat → Builder → Builder
  | 0, b => b
  | n + 1, b => leaveMany n b.leave

/-- How many elements an end tag closes: up to the innermost one of its name, in any case; none if
there is no such element. -/
def closedBy (name : Bytes) (frames : List Frame) : Nat :=
  match frames.findIdx? fun frame => Fold.alike frame.name name with
  | some i => i + 1
  | none => 0

def take (b : Builder) (t : Token) : Builder :=
  match t.kind with
  | .text data => b.append (.text data)
  | .comment data => b.append (.comment data)
  | .doctype data => b.append (.doctype data)
  | .startTag lowered attrs =>
    let name := spelledName t.raw lowered
    let attrs := spelledAttrs t.raw attrs
    if isVoid name then b.append (.element name attrs []) else b.enter name attrs
  | .selfClosing lowered attrs =>
    b.append (.element (spelledName t.raw lowered) (spelledAttrs t.raw attrs) [])
  | .endTag lowered => leaveMany (closedBy lowered b.frames) b

def finish (b : Builder) : List Node := (leaveMany b.frames.length b).done.reverse

end Builder

def parse (s : Bytes) : List Node := ((tokens s).foldl Builder.take .empty).finish

end Graft.Markup
