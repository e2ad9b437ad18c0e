import Graft.Text.Lower
import Graft.Text.Quoted

/-!
# Graft.Url

Locations with a scheme, an authority, a path, a query and a fragment. Each part is kept unescaped;
writing a location escapes it again.

* `Url.parse`: a location read from text, or why it is none.
* `Url.text`: a location as text.
* `Url.hostname`, `Url.port`: the two parts of its host.
-/

namespace Graft

/-- Who signs in at a location. -/
structure Url.User where
  name : Bytes
  password? : Option Bytes
deriving DecidableEq, Repr

/-- A location. -/
structure Url where
  scheme : Bytes
  opaqueRest : Bytes
  user? : Option Url.User
  host : Bytes
  path : Bytes
  rawPath : Bytes
  omitsHost : Bool
  query : Bytes
  forcesQuery : Bool
  fragment : Bytes
  rawFragment : Bytes
deriving DecidableEq, Repr

namespace Url

/-- What is wrong with a location. -/
inductive Fault where
  | control
  | missingScheme
  | colonInFirstSegment
  | badEscape (escape : Bytes)
  | badHostByte (c : UInt8)
  | badUser
  | unclosedHost
  | badPort (port : Bytes)
deriving DecidableEq, Repr

def Fault.text : Fault → Bytes
  | control => "net/url: invalid control character in URL"
  | missingScheme => "missing protocol scheme"
  | colonInFirstSegment => "first path segment in URL cannot contain colon"
  | badEscape e => "invalid URL escape " ++ Quoted.quote e
  | badHostByte c => "invalid character " ++ Quoted.quote [c] ++ " in host name"
  | badUser => "net/url: invalid userinfo"
  | unclosedHost => "missing ']' in host"
  | badPort p => "invalid port " ++ Quoted.quote p ++ " after host"

/-- A fault and the text it was found in. -/
structure ParseError where
  url : Bytes
  fault : Fault
deriving DecidableEq, Repr

def ParseError.message (e : ParseError) : Bytes :=
  "parse " ++ Quoted.quote e.url ++ ": " ++ e.fault.text

/-- The parts of a location that differ in what is escaped. -/
inductive Part where
  | user
  | host
  | path
  | fragment
deriving DecidableEq, Repr

def isUnreserved (c : UInt8) : Bool :=
  Byte.isAlphanumeric c || c == Byte.dash || c == Byte.underscore || c == Byte.dot || c == 0x7E

def hostMarks : Bytes := "!$&'()*+,;=:[]<>\""

def reservedMarks : Bytes := "$&+,/:;=?@"

def isEscaped (part : Part) (c : UInt8) : Bool :=
  if isUnreserved c then false
  else
    match part with
    | .host => !hostMarks.contains c
    | .path => !reservedMarks.contains c || c == Byte.question
    | .user =>
      !reservedMarks.contains c || [0x40, Byte.slash, Byte.question, Byte.colon].contains c
    | .fragment => !reservedMarks.contains c && !(Bytes.ofString "!()*").contains c

def percent : UInt8 := 0x25

def upperHex (c : UInt8) : Bytes := (Byte.hex c).map Byte.upper

def escape (part : Part) (s : Bytes) : Bytes :=
  s.flatMap fun c => if isEscaped part c then percent :: upperHex c else [c]

/-- Replaces `%` and two hexadecimal digits by the byte they stand for. In a host only bytes beyond
ASCII and the percent sign itself may be escaped, and other bytes have to be those of a name. -/
def unescape (part : Part) : Bytes → Except Fault Bytes
  | [] => .ok []
  | c :: rest =>
    if c = percent then
      match rest with
      | a :: b :: behind =>
        match Byte.hexValue? a, Byte.hexValue? b with
        | some h, some l =>
          if part = .host ∧ h < 8 ∧ [a, b] ≠ [0x32, 0x35] then .error (.badEscape [c, a, b])
          else (unescape part behind).map ((h * 16 + l) :: ·)
        | _, _ => .error (.badEscape [c, a, b])
      | short => .error (.badEscape (c :: short))
    else if part = .host ∧ c < 0x80 ∧ isEscaped part c then .error (.badHostByte c)
    else (unescape part rest).map (c :: ·)

def splitScheme (s : Bytes) : Except Fault (Bytes × Bytes) :=
  let isMark (c : UInt8) := Byte.isDigit c || c == Byte.plus || c == Byte.dash || c == Byte.dot
  let scheme := s.takeWhile fun c => Byte.isLetter c || isMark c
  match s.drop scheme.length with
  | c :: rest =>
    if c = Byte.colon then
      if scheme = [] then .error .missingScheme
      else if scheme.head?.any isMark then .ok ([], s)
      else .ok (scheme, rest)
    else .ok ([], s)
  | [] => .ok ([], s)

def isOptionalPort : Bytes → Bool
  | [] => true
  | c :: digits => c == Byte.colon && digits.all Byte.isDigit

/-- What follows the last occurrence of a byte, with it; `none` if it does not occur. -/
def fromLast? (c : UInt8) (s : Bytes) : Option Bytes :=
  if s.contains c then some (s.drop (s.length - 1 - (s.reverse.takeWhile (· != c)).length)) else none

def parseHost (s : Bytes) : Except Fault Bytes := do
  if s.head? = some Byte.openBracket then
    match fromLast? Byte.closeBracket s with
    | none => throw .unclosedHost
    | some behind => if !isOptionalPort (behind.drop 1) then throw (.badPort (behind.drop 1))
  else
    match fromLast? Byte.colon s with
    | none => pure ()
    | some port => if !isOptionalPort port then throw (.badPort port)
  unescape .host s

def userMarks : Bytes := "-._:~!$&'()*+,;=%@"

def parseUser (s : Bytes) : Except Fault User := do
  if !s.all fun c => Byte.isAlphanumeric c || userMarks.contains c then throw .badUser
  match Bytes.cut? [Byte.colon] s with
  | none => return ⟨← unescape .user s, none⟩
  | some (name, password) => return ⟨← unescape .user name, some (← unescape .user password)⟩

def parseAuthority (s : Bytes) : Except Fault (Option User × Bytes) := do
  match fromLast? 0x40 s with
  | none => return (none, ← parseHost s)
  | some behind =>
    let host ← parseHost (behind.drop 1)
    return (some (← parseUser (s.take (s.length - behind.length))), host)

def ofPath (path : Bytes) : Url := ⟨[], [], none, [], path, path, false, [], false, [], []⟩

def twoSlashes : Bytes := [Byte.slash, Byte.slash]

def parseWhole (s : Bytes) : Except Fault Url := do
  if s.any fun c => c < 0x20 || c == 0x7F then throw .control
  if s = [Byte.star] then return ofPath s
  let (scheme, rest) ← splitScheme s
  let forces := rest.getLast? = some Byte.question ∧ rest.count Byte.question = 1
  let query := if forces then [] else (rest.dropWhile (· != Byte.question)).drop 1
  let rest := rest.takeWhile (· != Byte.question)
  let url := { ofPath [] with scheme := scheme.lower, query := query, forcesQuery := forces }
  if rest.head? ≠ some Byte.slash then
    if scheme ≠ [] then return { url with opaqueRest := rest }
    if (rest.takeWhile (· != Byte.slash)).contains Byte.colon then throw .colonInFirstSegment
  if twoSlashes.isPrefixOf rest ∧ (scheme ≠ [] ∨ rest.length = 2 ∨ rest[2]? ≠ some Byte.slash) then
    let authority := (rest.drop 2).takeWhile (· != Byte.slash)
    let path := (rest.drop 2).dropWhile (· != Byte.slash)
    let (user?, host) ← parseAuthority authority
    return { url with user? := user?, host := host, path := ← unescape .path path, rawPath := path }
  else
    return { url with
      path := ← unescape .path rest
      rawPath := rest
      omitsHost := scheme ≠ [] ∧ rest.head? = some Byte.slash }
def parse (s : Bytes) : Except ParseError Url :=
  let whole := s.takeWhile (· != Byte.hash)
  let fragment := (s.dropWhile (· != Byte.hash)).drop 1
  match parseWhole whole with
  | .error fault => .error ⟨whole, fault⟩
  | .ok url =>
    match unescape .fragment fragment with
    | .error fault => .error ⟨s, fault⟩
    | .ok text => .ok { url with fragment := text, rawFragment := fragment }

def isWritten (part : Part) (s : Bytes) : Bool :=
  s.all fun c => (Bytes.ofString "!$&'()*+,;=:@[]%").contains c || !isEscaped part c

/-- A part as it was written if that is in order, and escaped anew otherwise. -/
def written (part : Part) (raw text : Bytes) : Bytes :=
  if isWritten part raw then raw else escape part text

def User.text (u : User) : Bytes :=
  escape .user u.name ++ u.password?.elim [] fun p => Byte.colon :: escape .user p

def text (u : Url) : Bytes :=
  let scheme : Bytes := if u.scheme.isEmpty then [] else u.scheme ++ ":"
  let middle : Bytes :=
    if !u.opaqueRest.isEmpty then u.opaqueRest
    else
      let path : Bytes := if u.path = [Byte.star] then u.path else written .path u.rawPath u.path
      let hasAuthority := !u.host.isEmpty || u.user?.isSome
      let slashes : Bytes :=
        if hasAuthority || (!u.scheme.isEmpty && !u.omitsHost && !u.path.isEmpty) then "//" else []
      let user : Bytes := u.user?.elim [] fun x => x.text ++ "@"
      let gap : Bytes :=
        if !path.isEmpty && path.head? != some Byte.slash && !u.host.isEmpty then "/" else []
      slashes ++ user ++ escape .host u.host ++ gap ++ path
  let query : Bytes := if u.forcesQuery || !u.query.isEmpty then "?" ++ u.query else []
  let fragment : Bytes :=
    if u.fragment.isEmpty then [] else "#" ++ written .fragment u.rawFragment u.fragment
  scheme ++ middle ++ query ++ fragment

def hostAndPort (u : Url) : Bytes × Bytes :=
  let (host, port) :=
    match fromLast? Byte.colon u.host with
    | some port =>
      if isOptionalPort port then (u.host.take (u.host.length - port.length), port.drop 1)
      else (u.host, [])
    | none => (u.host, [])
  if host.head? = some Byte.openBracket ∧ host.getLast? = some Byte.closeBracket then
    (host.tail.dropLast, port)
  else (host, port)

def hostname (u : Url) : Bytes := u.hostAndPort.1

def port (u : Url) : Bytes := u.hostAndPort.2

end Url

end Graft
