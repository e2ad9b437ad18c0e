import Graft.Json.Text

/-!
# Graft.Http.Message

Requests and responses. Header names are compared without regard to case, and responses spell
them with capitals.

* `Http.Request`, `Http.Response`: the messages.
* `Http.Request.path`, `Http.Request.query`: the two parts of the target.
* `Http.Response.json`: a response with a JSON document.
-/

namespace Graft.Http

abbrev Headers := List (Bytes × Bytes)

/-- The value of a header; empty if there is none. -/
def Headers.value (h : Headers) (name : Bytes) : Bytes :=
  ((h.find? fun field => field.1.lower == name.lower).map Prod.snd).getD []

structure Request where
  method : Bytes
  target : Bytes
  headers : Headers
  body : Bytes
  /-- The host part of the address it came from; an IPv6 address stands in brackets. -/
  remote : Bytes
  host : Bytes

structure Response where
  status : Nat
  headers : Headers
  body : Bytes
deriving DecidableEq, Repr

/-- Replaces `%` and two hexadecimal digits by the byte they stand for. -/
def unescape : Bytes → Bytes
  | c :: a :: b :: rest =>
    if c = 0x25 then
      match Byte.hexValue? a, Byte.hexValue? b with
      | some h, some l => (h * 16 + l) :: unescape rest
      | _, _ => c :: unescape (a :: b :: rest)
    else c :: unescape (a :: b :: rest)
  | short => short

def Request.path (r : Request) : Bytes := unescape (r.target.takeWhile (· != Byte.question))

def Request.query (r : Request) : Bytes := r.target.dropWhile (· != Byte.question)

def Response.withHeader (r : Response) (name value : Bytes) : Response :=
  { r with headers := r.headers ++ [(name, value)] }

def contentType : Bytes := "Content-Type"

def jsonType : Bytes := "application/json; charset=utf-8"

def Response.json (status : Nat) (j : Json) : Response :=
  ⟨status, [(contentType, jsonType)], j.compact⟩

end Graft.Http
