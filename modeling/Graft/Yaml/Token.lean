import Graft.Text.Utf8
import Graft.Yaml.Scalar

/-!
# Graft.Yaml.Token

The marks and words a text is made of, each with the place where it stands. Structure depends on
places, so a token knows its line and its column.

* `Yaml.Kind`, `Yaml.Token`: what a token is, and the token.
* `Yaml.Token.isScalar`: whether a value can be made of a token alone.
* `Yaml.Token.breaks`: how many line ends stand inside a token.
-/

namespace Graft.Yaml

def isBlank (c : Char) : Bool := c == ' ' || c == '\t'

def isBreak (c : Char) : Bool := c == '\n' || c == '\r'

inductive Kind where
  | dash
  | question
  | colon
  | comma
  | openBrace
  | closeBrace
  | openBracket
  | closeBracket
  | comment
  | anchor
  | reference
  | tag
  | directive
  | block
  | start
  | finish
  | merge
  | plain
  | quoted
deriving DecidableEq, Repr

structure Token where
  kind : Kind
  text : Bytes := []
  value : Scalar := .text text
  line : Nat
  column : Nat
  written : List Char := []

namespace Token

def isScalar (t : Token) : Bool :=
  match t.kind with
  | .anchor | .reference | .block | .plain | .quoted => true
  | _ => false

def isText (t : Token) : Bool := t.kind == .plain && t.value.isText

end Token

/-- The number of line ends in a text; a carriage return before a line feed is part of it. -/
def lineEnds : List Char → Nat
  | [] => 0
  | '\r' :: '\n' :: rest => lineEnds rest + 1
  | c :: rest => if isBreak c then lineEnds rest + 1 else lineEnds rest

def isGap (c : Char) : Bool := c == ' ' || isBreak c

def Token.breaks (t : Token) : Nat := lineEnds (t.written.dropWhile isGap)

/-- The number of line ends in a token; those behind text do not count either. -/
def Token.innerBreaks (t : Token) : Nat :=
  if t.isText then lineEnds ((t.written.dropWhile isGap).reverse.dropWhile isGap).reverse
  else t.breaks

/-- Whether a mark that divides documents stands at the head of a text. -/
def startsDocument (s : List Char) : Bool :=
  match s with
  | a :: b :: c :: rest =>
    a == b && b == c && (a == '-' || a == '.') &&
      (match rest with
        | [] => true
        | d :: _ => isBlank d || isBreak d)
  | _ => false

end Graft.Yaml
