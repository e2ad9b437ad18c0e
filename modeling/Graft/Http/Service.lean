import Graft.Http.Accept
import Graft.Http.Address
import Graft.Http.Exposition
import Graft.Http.RateLimit
import Graft.Http.Transform

/-!
# Graft.Http.Service

The service around the transform. Every request gets an identifier, is counted, may come from a
page of another origin, and takes a token from the bucket of its client; then its route answers.

* `Http.Route`: what the service offers.
* `Http.Service`: how it is set up.
* `Http.Service.serve`: the response to one request.
-/

namespace Graft.Http

inductive Route where
  | health
  | transform
  | metrics
deriving DecidableEq, Repr

namespace Route

def all : List Route := [health, transform, metrics]

def method : Route → Bytes
  | health => "GET"
  | transform => "POST"
  | metrics => "GET"

def path : Route → Bytes
  | health => "/health"
  | transform => "/v1/transform"
  | metrics => "/metrics"

def find? (method path : Bytes) : Option Route :=
  all.find? fun r => r.method == method && r.path == path

end Route

/-! ## Redirections -/

def squeezeSlashes : Bytes → Bytes
  | a :: b :: rest =>
    if a = Byte.slash ∧ b = Byte.slash then squeezeSlashes (b :: rest)
    else a :: squeezeSlashes (b :: rest)
  | short => short

/-- The path that a proxy puts in front of every path, if it names one. -/
def forwardedPrefix? (h : Headers) : Option Bytes :=
  let named := Path.clean (h.value "X-Forwarded-Prefix")
  if named = Path.current then none
  else
    some (squeezeSlashes (named.filter fun c =>
      Byte.isAlphanumeric c || c == Byte.slash || c == Byte.dash))

def Request.withoutSlash (r : Request) : Bytes :=
  let path := r.path
  let path := match forwardedPrefix? r.headers with
    | some front => front ++ Byte.slash :: path
    | none => path
  let short := path.dropLast
  let rooted := if Path.isAbsolute short then short else Path.upToSlash short ++ short
  Path.clean rooted ++ r.query

/-- Characters that have a meaning in a page are written as entities. -/
def pageSafe (s : Bytes) : Bytes :=
  s.flatMap fun c =>
    if c = Byte.amp then "&amp;"
    else if c = Byte.lt then "&lt;"
    else if c = Byte.gt then "&gt;"
    else if c = Byte.quote then "&#34;"
    else if c = Byte.apostrophe then "&#39;"
    else [c]

/-- Bytes outside ASCII are written as `%` and two hexadecimal digits. -/
def asciiOnly (s : Bytes) : Bytes :=
  s.flatMap fun c => if c < 0x80 then [c] else 0x25 :: Byte.hex c

/-- Sends a request elsewhere; a page with a link is given to those who ask for a page. -/
def redirect (r : Request) (url : Bytes) : Response :=
  if r.method = Bytes.ofString "GET" then
    { status := 301
      headers := [(contentType, "text/html; charset=utf-8"), ("Location", asciiOnly url)]
      body := "<a href=\"" ++ pageSafe url ++ "\">Moved Permanently</a>.\n\n" }
  else ⟨307, [("Location", asciiOnly url)], []⟩

/-! ## Other origins -/

def requestIdHeader : Bytes := "X-Request-Id"

def originHeaders : Headers :=
  [("Access-Control-Allow-Origin", "*"), ("Access-Control-Expose-Headers", "X-Request-Id,Etag")]

def preflightHeaders : Headers :=
  [("Access-Control-Allow-Headers", "Content-Type,Content-Length,Accept,Origin,X-Request-Id"),
    ("Access-Control-Allow-Methods", "GET,POST,OPTIONS"), ("Access-Control-Allow-Origin", "*"),
    ("Access-Control-Max-Age", "43200")]

def Request.isForeign (r : Request) : Bool :=
  let origin := r.headers.value "Origin"
  !origin.isEmpty && origin != "http://" ++ r.host && origin != "https://" ++ r.host

/-! ## The service -/

structure Service where
  loader : Loader
  options : Extend.Options
  limit : Option RateLimit

/-- What a service keeps from one request to the next. -/
structure Service.State where
  disk : Disk
  metrics : Metrics
  buckets : RateLimit.Buckets

namespace Service

def start (d : Disk) : State := ⟨d, .empty, []⟩

def notFound : Response := ⟨404, [(contentType, "text/plain")], "404 page not found"⟩

def limited : Response := .json 429 (.object [("error", .ofWebText "rate limit exceeded")])

def healthy : Response := .json 200 (.object [("status", .ofWebText "ok")])

/-- The type of the text for a scraper; it names the way of escaping that the scraper asks for. -/
def expositionType (r : Request) : Bytes :=
  "text/plain; version=0.0.4; charset=utf-8; escaping=" ++ Accept.escaping (r.headers.value "Accept")

def run (s : Service) (route : Option Route) (r : Request) (state : State) : Response × State :=
  match route with
  | none => (notFound, state)
  | some .health => (healthy, state)
  | some .metrics => (⟨200, [(contentType, expositionType r)], state.metrics.exposition⟩, state)
  | some .transform =>
    let (response, metrics) := Http.transform s.loader s.options state.disk r.body state.metrics
    (response, { state with metrics := metrics })

def runLimited (s : Service) (now : Nat) (route : Option Route) (r : Request) (state : State) :
    Response × State :=
  match s.limit with
  | none => s.run route r state
  | some limit =>
    let (admitted, buckets) := limit.allow now r.client state.buckets
    let state := { state with buckets := buckets }
    if admitted then s.run route r state else (limited, state)

def runForeign (s : Service) (now : Nat) (route : Option Route) (r : Request) (state : State) :
    Response × State :=
  if !r.isForeign then s.runLimited now route r state
  else if r.method = Bytes.ofString "OPTIONS" then (⟨204, preflightHeaders, []⟩, state)
  else
    let (response, state) := s.runLimited now route r state
    ({ response with headers := originHeaders ++ response.headers }, state)

def requestId (r : Request) (fresh : Bytes) : Bytes :=
  let own := r.headers.value requestIdHeader
  if own.isEmpty then fresh else own

def countedPath (route : Option Route) : Bytes := (route.map Route.path).getD "unmatched"

/-- The response to one request at a time in nanoseconds; `fresh` is an identifier for a request
that brings none. A path with a slash too many is answered by a redirection and not counted. -/
def serve (s : Service) (now : Nat) (fresh : Bytes) (r : Request) (state : State) :
    Response × State :=
  let route := Route.find? r.method r.path
  let isSlashed := r.path.getLast? == some Byte.slash &&
    (Route.find? r.method r.path.dropLast).isSome
  if isSlashed then (redirect r r.withoutSlash, state)
  else
    let (response, state) := s.runForeign now route r state
    let response := response.withHeader requestIdHeader (requestId r fresh)
    let status := Bytes.ofNat response.status
    let metrics := state.metrics.recordRequest r.method (countedPath route) status
    (response, { state with metrics := metrics })

end Service

end Graft.Http
