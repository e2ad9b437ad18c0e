import Graft.Text.Bytes

/-!
# Graft.Http.Listen

Where a service can listen: a host and a port, joined to one address and taken apart again. A port
is a number or the name of a well-known one.

* `Http.joinAddress`, `Http.splitAddress`: an address of a host and a port, and back.
* `Http.port`: the number of the port of an address, or why it has none.
-/

namespace Graft.Http

/-- What is wrong with the form of an address. -/
inductive AddressFault where
  | missingPort
  | tooManyColons
  | unclosed
  | strayOpen
  | strayClose
deriving DecidableEq, Repr

def AddressFault.text : AddressFault → Bytes
  | missingPort => "missing port in address"
  | tooManyColons => "too many colons in address"
  | unclosed => "missing ']' in address"
  | strayOpen => "unexpected '[' in address"
  | strayClose => "unexpected ']' in address"

/-- Why a service cannot listen at an address. -/
inductive PortError where
  | malformed (address : Bytes) (fault : AddressFault)
  | invalid (port : Bytes)
  | unknown (port : Bytes)
deriving DecidableEq, Repr

def PortError.message : PortError → Bytes
  | malformed address fault => "listen tcp: address " ++ address ++ ": " ++ fault.text
  | invalid port => "listen tcp: address " ++ port ++ ": invalid port"
  | unknown port => "listen tcp: lookup tcp/" ++ port ++ ": unknown port"

def joinAddress (host port : Bytes) : Bytes :=
  if host.contains Byte.colon then "[" ++ host ++ "]:" ++ port else host ++ ":" ++ port

def cutLastColon? (s : Bytes) : Option (Bytes × Bytes) :=
  match s.reverse.dropWhile (· != Byte.colon) with
  | [] => none
  | _ :: front => some (front.reverse, s.drop (front.length + 1))

def splitAddress (address : Bytes) : Except AddressFault (Bytes × Bytes) :=
  match cutLastColon? address with
  | none => .error .missingPort
  | some (front, port) =>
    match address with
    | [] => .error .missingPort
    | first :: inside =>
      if first = Byte.openBracket then
        let host := inside.takeWhile (· != Byte.closeBracket)
        match inside.dropWhile (· != Byte.closeBracket) with
        | [] => .error .unclosed
        | _ :: behind =>
          if behind = [] then .error .missingPort
          else if front.length = host.length + 2 then
            if inside.contains Byte.openBracket then .error .strayOpen
            else if behind.contains Byte.closeBracket then .error .strayClose
            else .ok (host, port)
          else if behind.head? = some Byte.colon then .error .tooManyColons
          else .error .missingPort
      else if front.contains Byte.colon then .error .tooManyColons
      else if address.contains Byte.openBracket then .error .strayOpen
      else if address.contains Byte.closeBracket then .error .strayClose
      else .ok (front, port)

def knownPorts : List (Bytes × Nat) :=
  [("domain", 53), ("ftp", 21), ("ftps", 990), ("gopher", 70), ("http", 80), ("https", 443),
    ("imap2", 143), ("imap3", 220), ("imaps", 993), ("pop3", 110), ("pop3s", 995), ("smtp", 25),
    ("submissions", 465), ("ssh", 22), ("telnet", 23)]

def portCutoff : UInt32 := 0x40000000

/-- The number of decimal digits in 32-bit arithmetic. Reading stops as soon as the number is out of
reach; `none` if something else than a digit comes before that. -/
def portDigits? : (n : UInt32) → Bytes → Option UInt32
  | n, [] => some n
  | n, c :: rest =>
    if !Byte.isDigit c then none
    else if portCutoff ≤ n then some 0xFFFFFFFF
    else
      let tens := n * 10
      let next := tens + (c - 0x30).toUInt32
      if next < tens then some 0xFFFFFFFF else portDigits? next rest

def portNumber? (port : Bytes) : Option Int :=
  let negative := port.head? == some Byte.dash
  let signed := negative || port.head? == some Byte.plus
  (portDigits? 0 (if signed then port.drop 1 else port)).map fun n =>
    if negative then -(min n portCutoff).toNat else (min n (portCutoff - 1)).toNat

def port (host text : Bytes) : Except PortError Nat :=
  let address := joinAddress host text
  match splitAddress address with
  | .error fault => .error (.malformed address fault)
  | .ok (_, text) =>
    match portNumber? text with
    | some n => if 0 ≤ n ∧ n ≤ 65535 then .ok n.toNat else .error (.invalid text)
    | none =>
      match knownPorts.lookup text.lower with
      | some n => .ok n
      | none => .error (.unknown text)

end Graft.Http
