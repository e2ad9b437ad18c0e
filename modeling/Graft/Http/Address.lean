import Graft.Http.Message
import Graft.Text.Utf8

/-!
# Graft.Http.Address

The addresses of clients. A request names the address it came from; proxies on the way are trusted
and name the client in a header.

* `Http.Address`: eight groups of an address; an IPv4 address is embedded.
* `Http.Address.parse?`, `Http.Address.text`: addresses as text.
* `Http.Request.client`: what identifies the client of a request.
-/

namespace Graft.Http

abbrev Address := List Nat

namespace Address

def octet? (s : Bytes) : Option Nat :=
  let n := s.foldl (fun n c => n * 10 + (c.toNat - 0x30)) 0
  if s.isEmpty || 3 < s.length || !s.all Byte.isDigit then none
  else if 1 < s.length && s.head? == some 0x30 then none
  else if 255 < n then none
  else some n

def quad? (s : Bytes) : Option (List Nat) :=
  match (s.split Byte.dot).mapM octet? with
  | some [a, b, c, d] => some [a * 256 + b, c * 256 + d]
  | _ => none

def group? (s : Bytes) : Option Nat :=
  if s.isEmpty || 4 < s.length then none
  else s.foldl (fun n c => n.bind fun n => (Byte.hexValue? c).map fun h => n * 16 + h.toNat) (some 0)

/-- Groups with colons between them; the last piece may be an IPv4 address. -/
def groups? (ends : Bool) : List Bytes → Option (List Nat)
  | [] => some []
  | [piece] =>
    if ends && piece.contains Byte.dot then quad? piece else (group? piece).map fun g => [g]
  | piece :: rest => do
    let g ← group? piece
    let gs ← groups? ends rest
    pure (g :: gs)

def pieces (s : Bytes) : List Bytes := if s.isEmpty then [] else s.split Byte.colon

def six? (s : Bytes) : Option Address :=
  match Bytes.cut? "::" s with
  | none => (groups? true (pieces s)).filter fun g => g.length == 8
  | some (before, behind) => do
    let left ← groups? false (pieces before)
    let right ← groups? true (pieces behind)
    if 8 ≤ left.length + right.length then none
    else some (left ++ List.replicate (8 - left.length - right.length) 0 ++ right)

def embedding : List Nat := [0, 0, 0, 0, 0, 0xFFFF]

def parse? (s : Bytes) : Option Address :=
  if s.contains Byte.colon then six? s else (quad? s).map (embedding ++ ·)

def hexText (n : Nat) : Bytes := (Nat.toDigits 16 n).map fun c => c.toNat.toUInt8

def zeroRun (groups : List Nat) : Nat := (groups.takeWhile (· == 0)).length

/-- The start of the first longest run of at least two zeros. -/
def longestRun? (a : Address) : Option (Nat × Nat) :=
  (List.range a.length).foldl (fun best i =>
    let n := zeroRun (a.drop i)
    if n < 2 then best
    else
      match best with
      | some (_, m) => if m < n then some (i, n) else best
      | none => some (i, n)) none

def joined (groups : List Nat) : Bytes := Bytes.joinWith ":" (groups.map hexText)

def text (a : Address) : Bytes :=
  if embedding.isPrefixOf a then
    Bytes.joinWith "." ((a.drop 6).flatMap fun g => [Bytes.ofNat (g / 256), Bytes.ofNat (g % 256)])
  else
    match longestRun? a with
    | some (i, n) => joined (a.take i) ++ "::" ++ joined (a.drop (i + n))
    | none => joined a

end Address

def unbracketed? (host : Bytes) : Option Bytes :=
  match host with
  | 0x5B :: rest => if rest.getLast? == some Byte.closeBracket then some rest.dropLast else none
  | _ => if host.contains Byte.colon then none else some host

/-- The first of several addresses with commas between them, if all are addresses. -/
def forwarded? (value : Bytes) : Option Bytes :=
  let items := (value.split Byte.comma).map Space.trim
  if items.all fun item => (Address.parse? item).isSome then items.head? else none

def proxyHeaders : List Bytes := ["X-Forwarded-For", "X-Real-IP"]

/-- What identifies the client of a request: the address a proxy names, or else the one it came
from; empty if that is no address. -/
def Request.client (r : Request) : Bytes :=
  match (unbracketed? r.remote).bind Address.parse? with
  | none => []
  | some address =>
    (proxyHeaders.findSome? fun name => forwarded? (r.headers.value name)).getD address.text

end Graft.Http
