import Graft.Markup.Node

/-!
# Graft.Markup.Render

Writing a forest back as markup.

* `escape`, `escapeComment`: text and attribute values, comments.
* `Node.render`: one node, which fails on a void element with children.
* `render`: a forest.
-/

namespace Graft.Markup

/-- A void element that has children cannot be written. -/
inductive RenderError where
  | voidChildren (name : Bytes)
deriving DecidableEq, Repr

/-- Text with the markup bytes, quotes and carriage returns as references. -/
def escape (s : Bytes) : Bytes :=
  s.flatMap fun c =>
    if c = Byte.amp then "&amp;"
    else if c = Byte.apostrophe then "&#39;"
    else if c = Byte.lt then "&lt;"
    else if c = Byte.gt then "&gt;"
    else if c = Byte.quote then "&#34;"
    else if c = Byte.cr then "&#13;"
    else [c]

/-- Comment data behind a byte: ampersands are escaped, and a `>` that could end the comment. -/
def escapeCommentFrom (mayEnd : Bool) : Bytes → Bytes
  | [] => []
  | c :: rest =>
    let written : Bytes :=
      if c = Byte.amp then "&amp;" else if c = Byte.gt ∧ mayEnd then "&gt;" else [c]
    written ++ escapeCommentFrom (c == Byte.bang || c == Byte.dash) rest

def escapeComment (s : Bytes) : Bytes := escapeCommentFrom true s

def isLiteral (name : Bytes) : Bool :=
  match RawElement.ofName? name with
  | some element => !element.hasReferences
  | none => false

/-- Elements that lose a line feed at their beginning when they are read in a browser. -/
def lineFeedNames : List Bytes := ["pre", "listing", "textarea"]

def swallowsLineFeed (name : Bytes) : Bool := lineFeedNames.contains name

def startsWithLineFeed : List Node → Bool
  | .text (c :: _) :: _ => c == Byte.lf
  | _ => false

/-- Written markup. Behind a `plaintext` element nothing more of its tree can be written. -/
structure Rendered where
  text : Bytes
  stopped : Bool

def renderAttrs (attrs : List Attr) : Bytes :=
  attrs.flatMap fun a => Byte.space :: a.key ++ "=\"" ++ escape a.val ++ [Byte.quote]

def plaintextName : Bytes := RawElement.plaintext.name

mutual

def Node.render : Node → Except RenderError Rendered
  | .text data => .ok ⟨escape data, false⟩
  | .comment data => .ok ⟨"<!--" ++ escapeComment data ++ "-->", false⟩
  | .doctype data => .ok ⟨"<!DOCTYPE " ++ escape data ++ [Byte.gt], false⟩
  | .element name attrs children =>
    let start : Bytes := Byte.lt :: name ++ renderAttrs attrs
    if isVoid name then
      if children.isEmpty then .ok ⟨start ++ "/>", false⟩ else .error (.voidChildren name)
    else
      let feed : Bytes :=
        if swallowsLineFeed name && startsWithLineFeed children then [Byte.lf] else []
      match renderChildren (isLiteral name) children with
      | .error e => .error e
      | .ok inner =>
        let text := start ++ [Byte.gt] ++ feed ++ inner.text
        -- no end tag closes `plaintext`: whatever is written behind it would be its content
        if inner.stopped || name == plaintextName then .ok ⟨text, true⟩
        else .ok ⟨text ++ "</" ++ name ++ [Byte.gt], false⟩

/-- The children of an element; in a literal one, text is written as it is. -/
def renderChildren (literal : Bool) : List Node → Except RenderError Rendered
  | [] => .ok ⟨[], false⟩
  | node :: rest =>
    let written : Except RenderError Rendered :=
      match literal, node with
      | true, .text data => .ok ⟨data, false⟩
      | _, node => node.render
    match written with
    | .error e => .error e
    | .ok first =>
      if first.stopped then .ok first
      else
        match renderChildren literal rest with
        | .error e => .error e
        | .ok more => .ok ⟨first.text ++ more.text, more.stopped⟩

end

/-- A forest as markup. -/
def render : List Node → Except RenderError Bytes
  | [] => .ok []
  | node :: rest =>
    match node.render with
    | .error e => .error e
    | .ok first =>
      match render rest with
      | .error e => .error e
      | .ok more => .ok (first.text ++ more)

def RenderError.message : RenderError → Bytes
  | .voidChildren name => "render markup: html: void element <" ++ name ++ "> has child nodes"

end Graft.Markup
