import Graft.Component.Block

/-!
# Graft.Component.Write

Writing a component back. Custom blocks come first, then the script, then the styles.

* `Block.source`: one block with its tags.
* `Auxiliary.source`: the blocks beside the template.
* `assemble`: a whole component around a template body.
-/

namespace Graft

open Markup (Attr)

/-- A value between double quotes; a carriage return stays as it is. -/
def escapeValue (s : Bytes) : Bytes :=
  s.flatMap fun c =>
    if c = Byte.amp then "&amp;"
    else if c = Byte.apostrophe then "&#39;"
    else if c = Byte.lt then "&lt;"
    else if c = Byte.gt then "&gt;"
    else if c = Byte.quote then "&#34;"
    else [c]

/-- Attributes behind a tag name; an empty value is not written. -/
def writeAttrs (attrs : List Attr) : Bytes :=
  attrs.flatMap fun a =>
    Byte.space :: a.key ++ (if a.val.isEmpty then [] else "=\"" ++ escapeValue a.val ++ "\"")

def Block.source (b : Block) : Bytes :=
  "<" ++ b.type ++ writeAttrs b.attrs ++ ">" ++ b.content ++ "</" ++ b.type ++ ">"

/-- The blocks beside the template that are written: all but those of type `extension`. -/
def Auxiliary.written (a : Auxiliary) : List Block :=
  a.custom.filter (fun b => b.type != BlockType.extension) ++ a.script.toList ++ a.styles

def Auxiliary.source (a : Auxiliary) : Bytes := Bytes.joinWith "\n" (a.written.map Block.source)

def assemble (attrs : List Attr) (body : Bytes) (a : Auxiliary) : Bytes :=
  "<template" ++ writeAttrs attrs ++ ">" ++ body ++ "</template>\n" ++ a.source

end Graft
