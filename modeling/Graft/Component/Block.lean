import Graft.Markup.Node

/-!
# Graft.Component.Block

The parts of a component file.

* `Block`: one top-level section with its attributes and content.
* `Auxiliary`: the blocks beside the template.
* `Component`: a template with its auxiliary blocks.
* `Block.extends?`, `Block.isExtendable`: the directives of a template.
-/

namespace Graft

open Markup (Attr)

/-- One top-level section of a component file. -/
structure Block where
  type : Bytes
  attrs : List Attr
  content : Bytes
deriving DecidableEq, Repr

/-- The blocks beside the template, each kind in source order. -/
structure Auxiliary where
  script : Option Block
  styles : List Block
  custom : List Block
deriving DecidableEq, Repr

/-- A component file: its template and the blocks beside it. -/
structure Component where
  template : Block
  auxiliary : Auxiliary
deriving DecidableEq, Repr

namespace Attrs

/-- Gives the first attribute of a key a value, or appends one. -/
def set (key val : Bytes) : List Attr → List Attr
  | [] => [⟨key, val⟩]
  | a :: rest => if a.key = key then { a with val := val } :: rest else a :: set key val rest

def has (key : Bytes) (attrs : List Attr) : Bool := (Attr.find? key attrs).isSome

/-- The attributes without those whose key stands before them: the first occurrence wins. -/
def distinct (attrs : List Attr) : List Attr :=
  attrs.foldl (fun kept a => if has a.key kept then kept else kept ++ [a]) []

end Attrs

namespace BlockType

def template : Bytes := "template"

def script : Bytes := "script"

def style : Bytes := "style"

/-- Top-level blocks of this type are never written back. -/
def extension : Bytes := "extension"

end BlockType

namespace Directive

def extending : Bytes := "extends"

/-- Marks a template whose extension points are still open. -/
def extendable : Bytes := "extendable"

end Directive

namespace Block

def extends? (template : Block) : Option Bytes := Attr.find? Directive.extending template.attrs

def isExtendable (template : Block) : Bool := Attrs.has Directive.extendable template.attrs

end Block

end Graft
