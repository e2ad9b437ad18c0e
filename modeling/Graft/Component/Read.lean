import Graft.Component.Block
import Graft.Text.Quoted
import Graft.Text.Utf8

/-!
# Graft.Component.Read

Splitting a source into its top-level blocks. The content of a block is the source between its
tags, byte for byte; inside it only tags of the block's own name are counted.

* `Padding`: whether a block keeps its line numbers.
* `SourceError`: why a source is no component.
* `Reading`: the blocks found so far and the one still open.
* `Component.parse`: the component of a source.
-/

namespace Graft

open Markup (Attr Token)

/-- How the content of a block beside the template is padded. -/
inductive Padding where
  | none
  /-- One filler line for each source line before the content, so that a compiler reports the
  lines of the file. -/
  | line
deriving DecidableEq, Repr

/-- Why a source is no component. -/
inductive SourceError where
  | unterminated (type : Bytes) (line : Nat)
  | unexpectedEnd (name : Bytes) (line : Nat)
  | secondTemplate
  | secondScript
  | noTemplate
  | emptyExtends
  | extendableValue (val : Bytes)
  | overrideWithoutPoint
deriving DecidableEq, Repr

namespace SourceError

/-- What every message about a source begins with. -/
def heading : Bytes := "malformed component source"

def detail : SourceError → Bytes
  | unterminated type line =>
    "unterminated <" ++ type ++ "> block opened on line " ++ Bytes.ofNat line
  | unexpectedEnd name line => "unexpected </" ++ name ++ "> on line " ++ Bytes.ofNat line
  | secondTemplate => "more than one <template> block"
  | secondScript => "more than one <script> block"
  | noTemplate => "no <template> block"
  | emptyExtends => "empty \"extends\" directive on <template>"
  | extendableValue val => "\"extendable\" directive takes no value, got " ++ Quoted.quote val
  | overrideWithoutPoint => "<extension> without \"point\" attribute"

def message (e : SourceError) : Bytes := heading ++ ": " ++ e.detail

end SourceError

/-- A top-level block whose end tag has not been read. -/
structure OpenBlock where
  type : Bytes
  attrs : List Attr
  depth : Nat
  line : Nat
  feeds : Nat
  slices : List Bytes

/-- The blocks found so far. -/
structure Reading where
  template : Option Block
  auxiliary : Auxiliary
  current : Option OpenBlock
  feeds : Nat

/-- The filler that stands for one source line. A script without `lang` is padded with comments. -/
def filler (type : Bytes) (attrs : List Attr) : Bytes :=
  if type = BlockType.script ∧ ¬ Attrs.has "lang" attrs then "//\n" else "\n"

/-- What is put in front of the content of a block that has `feeds` line feeds before it. -/
def padding (pad : Padding) (type : Bytes) (attrs : List Attr) (feeds : Nat) : Bytes :=
  match pad with
  | .none => []
  | .line =>
    if type = BlockType.template then [] else Bytes.repeated feeds (filler type attrs)

namespace OpenBlock

def close (pad : Padding) (b : OpenBlock) : Block :=
  { type := b.type
    attrs := b.attrs
    content := padding pad b.type b.attrs b.feeds ++ b.slices.reverse.flatten }

def keep (b : OpenBlock) (raw : Bytes) : OpenBlock := { b with slices := raw :: b.slices }

end OpenBlock

namespace Reading

def empty : Reading := ⟨none, ⟨none, [], []⟩, none, 0⟩

def add (r : Reading) (b : Block) : Except SourceError Reading :=
  if b.type = BlockType.template then
    match r.template with
    | some _ => .error .secondTemplate
    | none => .ok { r with template := some b }
  else if b.type = BlockType.script then
    match r.auxiliary.script with
    | some _ => .error .secondScript
    | none => .ok { r with auxiliary := { r.auxiliary with script := some b } }
  else if b.type = BlockType.style then
    .ok { r with auxiliary := { r.auxiliary with styles := r.auxiliary.styles ++ [b] } }
  else .ok { r with auxiliary := { r.auxiliary with custom := r.auxiliary.custom ++ [b] } }

def takeOutside (r : Reading) (t : Token) : Except SourceError Reading :=
  match t.kind with
  | .startTag lowered attrs =>
    .ok { r with
      current := some
        { type := Markup.spelledName t.raw lowered
          attrs := Attrs.distinct (Markup.spelledAttrs t.raw attrs)
          depth := 0
          line := r.feeds + 1
          feeds := r.feeds + t.raw.lineFeeds
          slices := [] } }
  | .selfClosing lowered attrs =>
    r.add
      { type := Markup.spelledName t.raw lowered
        attrs := Attrs.distinct (Markup.spelledAttrs t.raw attrs)
        content := [] }
  | .endTag lowered => .error (.unexpectedEnd (Markup.spelledName t.raw lowered) (r.feeds + 1))
  | _ => .ok r

/-- A token inside a block belongs to its content, unless it is the end tag of the block. -/
def takeInside (pad : Padding) (r : Reading) (b : OpenBlock) (t : Token) :
    Except SourceError Reading :=
  match t.kind with
  | .startTag lowered _ =>
    -- only tags of the block's own name nest: the others need not be balanced
    let depth := if Fold.alike (Markup.spelledName t.raw lowered) b.type then b.depth + 1
      else b.depth
    .ok { r with current := some { b.keep t.raw with depth := depth } }
  | .endTag lowered =>
    if Fold.alike (Markup.spelledName t.raw lowered) b.type then
      match b.depth with
      | depth + 1 => .ok { r with current := some { b.keep t.raw with depth := depth } }
      | 0 => { r with current := none }.add (b.close pad)
    else .ok { r with current := some (b.keep t.raw) }
  | _ => .ok { r with current := some (b.keep t.raw) }

def take (pad : Padding) (r : Reading) (t : Token) : Except SourceError Reading :=
  let next := match r.current with
    | some b => r.takeInside pad b t
    | none => r.takeOutside t
  match next with
  | .ok r => .ok { r with feeds := r.feeds + t.raw.lineFeeds }
  | .error e => .error e

def takeAll (pad : Padding) : Reading → List Token → Except SourceError Reading
  | r, [] => .ok r
  | r, t :: rest =>
    match r.take pad t with
    | .ok r => takeAll pad r rest
    | .error e => .error e

def directiveError? (template : Block) : Option SourceError :=
  match template.extends? with
  | some val => if Space.isBlank val then some .emptyExtends else extendable
  | none => extendable
where
  extendable : Option SourceError :=
    match Attr.find? Directive.extendable template.attrs with
    | some val =>
      if val = [] ∨ val = Directive.extendable then none else some (.extendableValue val)
    | none => none

/-- The component, if every block is closed and there is a template with valid directives. -/
def finish (r : Reading) : Except SourceError Component :=
  match r.current with
  | some b => .error (.unterminated b.type b.line)
  | none =>
    match r.template with
    | none => .error .noTemplate
    | some template =>
      match directiveError? template with
      | some e => .error e
      | none => .ok { template := template, auxiliary := r.auxiliary }

end Reading

def Component.parse (pad : Padding) (source : Bytes) : Except SourceError Component :=
  match Reading.empty.takeAll pad (Markup.tokens source) with
  | .ok r => r.finish
  | .error e => .error e

end Graft
