import Graft.Text.Numeral
import Graft.Text.Record

/-!
# Graft.Cli.Flag

Flags on a command line. A long flag is `--name value` or `--name=value`, a short one `-n value`,
`-nvalue` or `-n=value`; truth values need no value, and short ones of them can stand in one
cluster. Flags and words may be mixed; `--` ends the flags.

* `Cli.Flag`, `Cli.Value`: a flag and what it holds.
* `Cli.Parsed`: the values given and the words left.
* `Cli.parse`: the flags and words of a command line.
* `Cli.FlagError`: why there are none.
-/

namespace Graft.Cli

inductive Value where
  | text (s : Bytes)
  | truth (b : Bool)
  | integer (n : Int)
  | texts (l : List Bytes)
deriving DecidableEq, Repr

namespace Value

def word : Value → Bytes
  | text _ => "string"
  | truth _ => []
  | integer _ => "int"
  | texts _ => "strings"

def read (like : Value) (s : Bytes) : Except Bytes Value :=
  match like with
  | text _ => .ok (.text s)
  | truth _ =>
    match Numeral.readBool s with
    | .ok b => .ok (.truth b)
    | .error e => .error (Numeral.boolReport s e)
  | integer _ =>
    match Numeral.readInt s with
    | .ok n => .ok (.integer n)
    | .error e => .error (Numeral.intReport s e)
  | texts _ =>
    match Record.read s with
    | .ok l => .ok (.texts l)
    | .error e => .error e.text

end Value

/-- A flag: its name, a letter for short, its value if it is not given, and its help text. -/
structure Flag where
  name : Bytes
  short : Option UInt8 := none
  initial : Value
  help : Bytes
deriving DecidableEq, Repr

def Flag.alone? (f : Flag) : Option Value :=
  match f.initial with
  | .truth _ => some (.truth true)
  | _ => none

def Flag.label (f : Flag) : Bytes :=
  match f.short with
  | some c => [Byte.dash, c] ++ ", --" ++ f.name
  | none => "--" ++ f.name

inductive FlagError where
  | malformed (arg : Bytes)
  | unknown (name : Bytes)
  | unknownShort (c : UInt8) (cluster : Bytes)
  | missing (name : Bytes)
  | missingShort (c : UInt8)
  | invalid (flag : Flag) (text report : Bytes)
deriving DecidableEq, Repr

/-- The character a byte is shown as: its own, or the one its two-byte encoding starts with. -/
def shownAs (c : UInt8) : Char :=
  if c < 0x80 then Char.ofNat c.toNat else if c < 0xC0 then 'Â' else 'Ã'

def FlagError.message : FlagError → Bytes
  | malformed arg => "bad flag syntax: " ++ arg
  | unknown name => "unknown flag: --" ++ name
  | unknownShort c cluster =>
    "unknown shorthand flag: " ++ Quoted.quoteLetter (shownAs c) ++ " in -" ++ cluster
  | missing name => "flag needs an argument: --" ++ name
  | missingShort c => "flag needs an argument: " ++ Quoted.quoteLetter (shownAs c) ++ " in -" ++ [c]
  | invalid flag text report =>
    "invalid argument " ++ Quoted.quote text ++ " for " ++ Quoted.quote flag.label ++ " flag: " ++
      report

/-- The values of a command line by flag, in order, and its words. -/
structure Parsed where
  given : List (Bytes × Value)
  words : List Bytes
deriving DecidableEq, Repr

namespace Parsed

def withValues (p : Parsed) (values : List (Bytes × Value)) : Parsed :=
  { p with given := values ++ p.given }

def withWord (p : Parsed) (word : Bytes) : Parsed := { p with words := word :: p.words }

def valuesOf (p : Parsed) (name : Bytes) : List Value :=
  (p.given.reverse.filter fun g => g.1 == name).map Prod.snd

def text? (p : Parsed) (name : Bytes) : Option Bytes :=
  match p.valuesOf name with
  | .text s :: _ => some s
  | _ => none

def truth? (p : Parsed) (name : Bytes) : Option Bool :=
  match p.valuesOf name with
  | .truth b :: _ => some b
  | _ => none

def integer? (p : Parsed) (name : Bytes) : Option Int :=
  match p.valuesOf name with
  | .integer n :: _ => some n
  | _ => none

def texts? (p : Parsed) (name : Bytes) : Option (List Bytes) :=
  match p.valuesOf name with
  | [] => none
  | values => some (values.reverse.flatMap fun v => match v with
    | .texts l => l
    | _ => [])

end Parsed

/-- What one argument with flags gives: values, and a flag that takes the next argument, with the
error if there is no next one. -/
structure Reading where
  values : List (Bytes × Value)
  pending : Option (Flag × FlagError) := none

def Flag.set (f : Flag) (text : Bytes) : Except FlagError (Bytes × Value) :=
  match f.initial.read text with
  | .ok value => .ok (f.name, value)
  | .error report => .error (.invalid f text report)

def readLong (flags : List Flag) (body : Bytes) : Except FlagError Reading :=
  let name := body.takeWhile (· != Byte.eq)
  match flags.find? fun f => f.name == name with
  | none => .error (.unknown name)
  | some flag =>
    match body.drop name.length with
    | _ :: text => (flag.set text).map fun v => ⟨[v], none⟩
    | [] =>
      match flag.alone? with
      | some value => .ok ⟨[(flag.name, value)], none⟩
      | none => .ok ⟨[], some (flag, .missing name)⟩

/-- What marks flags of a test run; they are passed over. -/
def testMark : Bytes := "test."

/-- A cluster of short flags, without its dash. The first flag that needs a value takes the rest of
the cluster, or the next argument if there is none. -/
def readShort (flags : List Flag) : Bytes → Except FlagError Reading
  | [] => .ok ⟨[], none⟩
  | c :: rest =>
    if testMark.isPrefixOf (c :: rest) then .ok ⟨[], none⟩
    else
      match flags.find? fun f => f.short == some c with
      | none => .error (.unknownShort c (c :: rest))
      | some flag =>
        if rest.head? = some Byte.eq ∧ 1 < rest.length then
          (flag.set (rest.drop 1)).map fun v => ⟨[v], none⟩
        else
          match flag.alone? with
          | some value =>
            (readShort flags rest).map fun r => { r with values := (flag.name, value) :: r.values }
          | none =>
            if rest.isEmpty then .ok ⟨[], some (flag, .missingShort c)⟩
            else (flag.set rest).map fun v => ⟨[v], none⟩

def endOfFlags : Bytes := "--"

def isWord (arg : Bytes) : Bool := arg.head? != some Byte.dash || arg.length == 1

def readArgument (flags : List Flag) (arg : Bytes) : Except FlagError Reading :=
  match Bytes.after? endOfFlags arg with
  | none => readShort flags (arg.drop 1)
  | some body =>
    if body.head? = some Byte.dash ∨ body.head? = some Byte.eq then .error (.malformed arg)
    else readLong flags body

def parse (flags : List Flag) : List Bytes → Except FlagError Parsed
  | [] => .ok ⟨[], []⟩
  | arg :: rest =>
    if isWord arg then (parse flags rest).map (·.withWord arg)
    else if arg = endOfFlags then .ok ⟨[], rest⟩
    else
      match readArgument flags arg with
      | .error e => .error e
      | .ok ⟨values, none⟩ => (parse flags rest).map (·.withValues values)
      | .ok ⟨values, some (flag, missing)⟩ =>
        match rest with
        | [] => .error missing
        | text :: rest =>
          match flag.set text with
          | .error e => .error e
          | .ok value => (parse flags rest).map (·.withValues (values ++ [value]))

end Graft.Cli
