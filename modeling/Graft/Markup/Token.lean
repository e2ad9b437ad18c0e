import Graft.Markup.Entity

/-!
# Graft.Markup.Token

Tokens of component source. Every token keeps the slice of the source it was read from, so the
slices of all tokens, with the tail that yields none, are the source again.

* `Token`, `Token.Kind`: a slice and what it says.
* `Mode`: whether the next token is markup or the raw text of the element just opened.
* `Attr`: a key and a value; a key without value has the empty one.
-/

namespace Graft.Markup

/-- An attribute. A key that stands alone has the empty value. -/
structure Attr where
  key : Bytes
  val : Bytes
deriving DecidableEq, Repr

/-- What a token says. Names and keys are in lower case; text, values and comments are decoded. -/
inductive Token.Kind where
  | text (data : Bytes)
  | comment (data : Bytes)
  | doctype (data : Bytes)
  | startTag (name : Bytes) (attrs : List Attr)
  | selfClosing (name : Bytes) (attrs : List Attr)
  | endTag (name : Bytes)
deriving DecidableEq, Repr

/-- A token with the slice of source it was read from. -/
structure Token where
  raw : Bytes
  kind : Token.Kind
deriving DecidableEq, Repr

/-- Elements whose content is not markup. In `textarea` and `title` references are decoded, in the
others nothing is. -/
inductive RawElement where
  | iframe
  | noembed
  | noframes
  | noscript
  | plaintext
  | script
  | style
  | textarea
  | title
  | xmp
deriving DecidableEq, Repr

namespace RawElement

def all : List RawElement :=
  [iframe, noembed, noframes, noscript, plaintext, script, style, textarea, title, xmp]

def name : RawElement → Bytes
  | iframe => "iframe"
  | noembed => "noembed"
  | noframes => "noframes"
  | noscript => "noscript"
  | plaintext => "plaintext"
  | script => "script"
  | style => "style"
  | textarea => "textarea"
  | title => "title"
  | xmp => "xmp"

def ofName? (n : Bytes) : Option RawElement := all.find? fun e => e.name == n

def hasReferences : RawElement → Bool
  | textarea => true
  | title => true
  | _ => false

end RawElement

/-- How the next token is read. -/
inductive Mode where
  | markup
  | raw (element : RawElement)
deriving DecidableEq, Repr

/-- Carriage returns, alone or before a line feed, become line feeds. -/
def normalizeLines : Bytes → Bytes
  | [] => []
  | [c] => if c = Byte.cr then [Byte.lf] else [c]
  | c :: d :: rest =>
    if c = Byte.cr then
      if d = Byte.lf then normalizeLines (d :: rest) else Byte.lf :: normalizeLines (d :: rest)
    else c :: normalizeLines (d :: rest)

/-- Zero bytes become U+FFFD. -/
def replaceZeros (s : Bytes) : Bytes :=
  s.flatMap fun c => if c = Byte.nul then Utf8.encode Utf8.replacement else [c]

def decodeText (s : Bytes) : Bytes := Entity.decode .text (normalizeLines s)

def decodeComment (s : Bytes) : Bytes := Entity.decode .text (replaceZeros (normalizeLines s))

def decodeRaw (element : RawElement) (s : Bytes) : Bytes :=
  let data := replaceZeros (normalizeLines s)
  if element.hasReferences then Entity.decode .text data else data

def decodeValue (s : Bytes) : Bytes := Entity.decode .attribute (normalizeLines s)

end Graft.Markup
