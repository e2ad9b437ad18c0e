import Graft.Path
import Graft.Text.Escaped
import Graft.Url

/-!
# Graft.Log

Log entries and how they are written: one JSON object a line, or tab-separated lines with a
coloured level for a console.

* `Log.Level`: severities, in ascending order.
* `Log.Entry`: a message with its logger name and fields.
* `Log.Format.line`: one entry as a line.
* `Log.write`: the lines of the entries that are severe enough.
* `Log.filePath`: the file that an output names by its path or its location.
-/

namespace Graft.Log

inductive Level where
  | debug
  | info
  | warn
  | error
  | dpanic
  | panic
  | fatal
deriving DecidableEq, Repr

namespace Level

def all : List Level := [debug, info, warn, error, dpanic, panic, fatal]

def rank : Level → Nat
  | debug => 0
  | info => 1
  | warn => 2
  | error => 3
  | dpanic => 4
  | panic => 5
  | fatal => 6

def name : Level → Bytes
  | debug => "debug"
  | info => "info"
  | warn => "warn"
  | error => "error"
  | dpanic => "dpanic"
  | panic => "panic"
  | fatal => "fatal"

/-- The level of a name in any case; the empty name stands for `info`. -/
def ofName? (s : Bytes) : Option Level :=
  if s.isEmpty then some info else all.find? fun l => l.name == Lower.text s

def colour : Level → Bytes
  | debug => "35"
  | info => "34"
  | warn => "33"
  | _ => "31"

def coloured (l : Level) : Bytes := "\x1b[" ++ l.colour ++ "m" ++ l.name.map Byte.upper ++ "\x1b[0m"

def enabled (threshold l : Level) : Bool := threshold.rank ≤ l.rank

end Level

/-- The value of a field. -/
inductive Value where
  | text (s : Bytes)
  | texts (l : List Bytes)

structure Entry where
  level : Level
  names : List Bytes
  message : Bytes
  fields : List (Bytes × Value)

/-- The name of the logger: its parts that are not empty, with dots between. -/
def Entry.logger (e : Entry) : Bytes := Bytes.joinWith "." (e.names.filter fun n => !n.isEmpty)

/-- When and where an entry was logged. -/
structure Origin where
  time : Bytes
  caller : Bytes

/-- How entries are written. -/
inductive Format where
  | json
  | console
deriving DecidableEq, Repr

def member (key value : Bytes) : Bytes := Escaped.scrubbed key ++ ":" ++ value

def Value.json : Value → Bytes
  | text s => Escaped.scrubbed s
  | texts l => "[" ++ Bytes.joinWith "," (l.map Escaped.scrubbed) ++ "]"

def jsonLine (o : Origin) (e : Entry) : Bytes :=
  let named := if e.logger.isEmpty then [] else [member "logger" (Escaped.scrubbed e.logger)]
  let members :=
    [member "level" (Escaped.scrubbed e.level.name), member "timestamp" (Escaped.scrubbed o.time)] ++
    named ++
    [member "caller" (Escaped.scrubbed o.caller), member "message" (Escaped.scrubbed e.message)] ++
    e.fields.map fun (k, v) => member k v.json
  "\x7b" ++ Bytes.joinWith "," members ++ "\x7d"

def consoleLine (o : Origin) (e : Entry) : Bytes :=
  let named := if e.logger.isEmpty then [] else [e.logger]
  let field : Bytes × Value → Bytes := fun (k, v) => Escaped.scrubbed k ++ ": " ++ v.json
  let fields : List Bytes :=
    if e.fields.isEmpty then [] else ["\x7b" ++ Bytes.joinWith ", " (e.fields.map field) ++ "\x7d"]
  Bytes.joinWith "\t" ([o.time, e.level.coloured] ++ named ++ [o.caller, e.message] ++ fields)

def Format.line (f : Format) (o : Origin) (e : Entry) : Bytes :=
  (match f with
  | json => jsonLine o e
  | console => consoleLine o e) ++ "\n"

def write (threshold : Level) (f : Format) (o : Origin) (entries : List Entry) : Bytes :=
  (entries.filter fun e => threshold.enabled e.level).flatMap (f.line o)

structure Config where
  level : Bytes
  development : Bool
  outputs : List Bytes

def Config.default : Config := ⟨"info", false, ["stderr"]⟩

def Config.format (c : Config) : Format := if c.development then .console else .json

def unknownLevel (name : Bytes) : Bytes := "unrecognized level: " ++ Quoted.quote name

/-- Why an output names no file. -/
inductive OutputError where
  | malformed (output : Bytes) (e : Url.ParseError)
  | unknownScheme (scheme : Bytes)
  | withUser (location : Url)
  | withFragment (location : Url)
  | withQuery (location : Url)
  | withPort (location : Url)
  | foreignHost (location : Url)
deriving DecidableEq, Repr

def OutputError.message : OutputError → Bytes
  | malformed output e => "can't parse " ++ Quoted.quote output ++ " as a URL: " ++ e.message
  | unknownScheme scheme => "no sink found for scheme " ++ Quoted.quote scheme
  | withUser u => "user and password not allowed with file URLs: got " ++ u.text
  | withFragment u => "fragments not allowed with file URLs: got " ++ u.text
  | withQuery u => "query parameters not allowed with file URLs: got " ++ u.text
  | withPort u => "ports not allowed with file URLs: got " ++ u.text
  | foreignHost u => "file URLs must leave host empty or use localhost: got " ++ u.text

def fileScheme : Bytes := "file"

def localHost : Bytes := "localhost"

/-- The path of the file an output names. An absolute path stands for itself, and everything else
is a location; one without a scheme is a file. -/
def filePath (output : Bytes) : Except OutputError Bytes :=
  if Path.isAbsolute output then .ok output
  else
    match Url.parse output with
    | .error e => .error (.malformed output e)
    | .ok u =>
      let u := if u.scheme.isEmpty then { u with scheme := fileScheme } else u
      if u.scheme ≠ fileScheme then .error (.unknownScheme u.scheme)
      else if u.user?.isSome then .error (.withUser u)
      else if !u.fragment.isEmpty then .error (.withFragment u)
      else if !u.query.isEmpty then .error (.withQuery u)
      else if !u.port.isEmpty then .error (.withPort u)
      else if !u.hostname.isEmpty && u.hostname != localHost then .error (.foreignHost u)
      else .ok u.path

def unopened (path report : Bytes) : Bytes := "open sink " ++ Quoted.quote path ++ ": " ++ report

end Graft.Log
