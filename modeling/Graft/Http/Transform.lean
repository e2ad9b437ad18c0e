import Graft.Http.Message
import Graft.Json.Field
import Graft.Loader
import Graft.Sha256
import Graft.Text.Fold
import Graft.Transformer

/-!
# Graft.Http.Transform

The transform as an endpoint: a JSON request with a file name and perhaps the source, and a JSON
response with the code and what it depends on.

* `Http.TransformRequest.bind`: the request of a body.
* `Http.Refusal`: why there is no code, with its status and kind.
* `Http.transform`: the response to a body.
-/

namespace Graft.Http

open Extend (ChainError)

/-- What a client asks for. -/
structure TransformRequest where
  filename : Bytes
  source : Bytes
  map : Option Json

/-- Why a body is no request. -/
inductive BindError where
  | malformed
  | filenameMissing
deriving DecidableEq, Repr

def BindError.message : BindError → Bytes
  | malformed => "invalid transform request: ..."
  | filenameMissing =>
    "invalid transform request: Key: 'TransformRequest.Filename' " ++
      "Error:Field validation for 'Filename' failed on the 'required' tag"

namespace TransformRequest

def sameKey : Json.KeyTest := fun name key => Fold.alike name (Utf8.scrub key)

def text? (j : Json) : Option Bytes := j.text?.map Utf8.scrub

def last? (name : Bytes) (members : List (Bytes × Json)) : Option Json :=
  (members.reverse.find? fun m => sameKey name (Json.Text.decode m.1)).map Prod.snd

def ofMembers? (members : List (Bytes × Json)) : Option TransformRequest := do
  let filename ← Json.field? sameKey (Json.replacing text?) "filename" members []
  let source ← Json.field? sameKey (Json.replacing text?) "source" members []
  pure ⟨filename, source, last? "map" members⟩

/-- The request of a document; `null` stands for one without members. -/
def ofJson? : Json → Option TransformRequest
  | .null => ofMembers? []
  | .object members => ofMembers? members
  | _ => none

/-- How many arrays and objects may stand in one another in a body. -/
def maxDepth : Nat := 10000

def document? (body : Bytes) : Option Json := do
  let (j, _) ← Json.value .standard body
  guard (j.depth ≤ maxDepth)
  pure j

def bind (body : Bytes) : Except BindError TransformRequest :=
  match (document? body).bind ofJson? with
  | none => .error .malformed
  | some request =>
    if request.filename.isEmpty then .error .filenameMissing else .ok request

end TransformRequest

inductive Refusal where
  | unbound (e : BindError)
  | relativeFilename
  | unreadable (e : ReadError)
  | failed (e : ChainError ReadError)

namespace Refusal

def readError? : Refusal → Option ReadError
  | unreadable e => some e
  | failed e => e.readError?
  | _ => none

def isOutsideRoot (r : Refusal) : Bool :=
  match r.readError? with
  | some (.outsideRoot _) => true
  | _ => false

def status (r : Refusal) : Nat :=
  if r.isOutsideRoot then 403
  else
    match r with
    | unbound _ => 400
    | relativeFilename => 400
    | unreadable _ => 404
    | failed e => if e.kind = .internal then 500 else 422

/-- The kind of a refusal; a request that cannot be understood has none. -/
def kind (r : Refusal) : Bytes :=
  if r.isOutsideRoot then "outside_root"
  else
    match r with
    | unbound _ => []
    | relativeFilename => []
    | unreadable _ => "not_found"
    | failed e => e.kind.label

def message : Refusal → Bytes
  | unbound e => e.message
  | relativeFilename => "filename must be absolute"
  | unreadable e => e.message
  | failed e => e.message ReadError.message

def response (r : Refusal) : Response :=
  let error : Bytes × Json := ("error", .ofWebText r.message)
  let kind : List (Bytes × Json) := if r.kind.isEmpty then [] else [("kind", .ofWebText r.kind)]
  .json r.status (.object (error :: kind))

end Refusal

def entityTag (code : Bytes) : Bytes := "\"" ++ Sha256.hex code ++ "\""

def texts (l : List Bytes) : Json := .array (l.map Json.ofWebText)

def success (request : TransformRequest) (code : Bytes) (dependencies chain : List Bytes) :
    Response :=
  let head : List (Bytes × Json) := [("code", .ofWebText code)]
  let map : List (Bytes × Json) := request.map.toList.map fun j => ("map", j.secured)
  let lists : List (Bytes × Json) := [("dependencies", texts dependencies), ("chain", texts chain)]
  let answer := Response.json 200 (.object (head ++ map ++ lists))
  { answer with headers := ("Etag", entityTag code) :: answer.headers }

/-- The source to transform: the one given, or else the file's. -/
def sourceOf (loader : Loader) (d : Disk) (request : TransformRequest) : Except ReadError Bytes :=
  if request.source.isEmpty then loader.read d request.filename else .ok request.source

def answer (loader : Loader) (options : Extend.Options) (d : Disk) (request : TransformRequest)
    (m : Metrics) : Response × Metrics :=
  if !Path.isAbsolute request.filename then (Refusal.relativeFilename.response, m)
  else
    match sourceOf loader d request with
    | .error e => ((Refusal.unreadable e).response, m)
    | .ok source =>
      let t := Extend.transform (loader.files false) options request.filename source d
      match t.code with
      | .error e => ((Refusal.failed e).response, t.recorded m)
      | .ok code => (success request code t.dependencies t.chain, t.recorded m)

def transform (loader : Loader) (options : Extend.Options) (d : Disk) (body : Bytes)
    (m : Metrics) : Response × Metrics :=
  match TransformRequest.bind body with
  | .error e => ((Refusal.unbound e).response, m)
  | .ok request => answer loader options d request m

end Graft.Http
