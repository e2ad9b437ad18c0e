import Graft.Text.Real
import Graft.Text.Utf8

/-!
# Graft.Http.Accept

What a client would accept: media ranges with parameters, the preferred ones first.

* `Http.Accept.parse`: the media ranges of a header.
* `Http.Accept.escaping`: how a scraper wants names to be escaped.
-/

namespace Graft.Http

structure Accept where
  type : Bytes
  subtype : Bytes
  quality : Float
  params : List (Bytes × Bytes)

namespace Accept

def wildcard : Bytes := [Byte.star]

/-- The value of a parameter; empty if it is not given. The last one of a name counts. -/
def param (a : Accept) (name : Bytes) : Bytes := (a.params.reverse.lookup name).getD []

def before (a b : Accept) : Bool :=
  a.quality > b.quality || (a.type != wildcard && b.type == wildcard) ||
    (a.subtype != wildcard && b.subtype == wildcard)

/-- Moves a range before those at the end of a list that it goes before; the list is given from its
end. -/
def insert (a : Accept) : List Accept → List Accept
  | [] => [a]
  | last :: front => if before a last then last :: insert a front else a :: last :: front

def sort (ranges : List Accept) : List Accept :=
  (ranges.foldl (fun sorted a => insert a sorted) []).reverse

def pieces (sep : UInt8) (s : Bytes) : List Bytes :=
  let parts := s.split sep
  if parts.getLast? = some [] then parts.dropLast else parts

/-- A range with one more parameter; a piece that is not a name, one equals sign and a value is
passed over. -/
def withPiece (a : Accept) (piece : Bytes) : Accept :=
  match pieces Byte.eq piece with
  | [name, value] =>
    if Space.trim name = [0x71] then { a with quality := (Real.read? value).getD 0.0 }
    else { a with params := a.params ++ [(Space.trim name, Space.trim value)] }
  | _ => a

def ofPart? (part : Bytes) : Option Accept :=
  let part := Space.trim part
  let range := part.takeWhile (· != Byte.semicolon)
  let params := pieces Byte.semicolon ((part.dropWhile (· != Byte.semicolon)).drop 1)
  let type := Space.trim (range.takeWhile (· != Byte.slash))
  let rest := (range.dropWhile (· != Byte.slash)).drop 1
  let subtype? : Option Bytes :=
    if rest.isEmpty then if type = wildcard then some wildcard else none
    else if ((rest.dropWhile (· != Byte.slash)).drop 1).isEmpty then
      some (Space.trim (rest.takeWhile (· != Byte.slash)))
    else none
  subtype?.map fun subtype => params.foldl withPiece ⟨type, subtype, 1.0, []⟩

def parse (header : Bytes) : List Accept := sort ((pieces Byte.comma header).filterMap ofPart?)

def escapings : List Bytes := ["allow-utf-8", "underscores", "dots", "values"]

def isText (a : Accept) : Bool :=
  a.type == Bytes.ofString "text" && a.subtype == Bytes.ofString "plain" &&
    (a.param "version" == Bytes.ofString "0.0.4" || (a.param "version").isEmpty)

/-- The way to escape that the ranges ask for; only those up to the first range of text count. -/
def escapingFrom (current : Bytes) : List Accept → Bytes
  | [] => current
  | a :: rest =>
    let wanted := a.param "escaping"
    let current := if escapings.contains wanted then wanted else current
    if a.isText then current else escapingFrom current rest

def escaping (header : Bytes) : Bytes := escapingFrom "values" (parse header)

end Accept

end Graft.Http
