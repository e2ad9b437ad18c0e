import Graft.Cli.Help

/-!
# Graft.Cli.Completion

Completing a command line whose last argument is still being typed: by the names of flags, by the
names of commands, or not at all.

* `Cli.Completion`: what an argument can become, and whether names of files are to be tried too.
* `Cli.Place.unfinished`: what is being typed, the value of a flag or anything else.
* `Cli.Place.complete`: the completion of a command line.
-/

namespace Graft.Cli

/-- Why a command line cannot be completed. -/
inductive CompletionError where
  | noCommand (args : List Bytes)
  | flags (args : List Bytes) (e : FlagError)
  | noFlag (command flag : Bytes)

def bracketed (l : List Bytes) : Bytes := "[" ++ Bytes.joinWith " " l ++ "]"

def CompletionError.message : CompletionError → Bytes
  | noCommand args => "unable to find a command for arguments: " ++ bracketed args
  | flags args e => "Error while parsing flags from args " ++ bracketed args ++ ": " ++ e.message
  | noFlag command flag =>
    "Subcommand '" ++ command ++ "' does not support flag '" ++ flag ++ "'"

/-- What an argument can become: choices with descriptions, and whether names of files are to be
tried as well. -/
structure Completion where
  choices : List (Bytes × Bytes) := []
  files : Bool := true
  error : Option CompletionError := none

namespace Completion

def text (c : Completion) (withDescriptions : Bool) : Bytes :=
  let line (choice : Bytes × Bytes) : Bytes :=
    choice.1 ++ (if withDescriptions && !choice.2.isEmpty then "\t" ++ choice.2 else []) ++ "\n"
  c.choices.flatMap line ++ (if c.files then ":0\n" else ":4\n")

def remarks (c : Completion) : Bytes :=
  let problem : Bytes := match c.error with
    | some e => "[Debug] [Error] " ++ e.message ++ "\n"
    | none => []
  problem ++ "Completion ended with directive: " ++
    (if c.files then "ShellCompDirectiveDefault\n" else "ShellCompDirectiveNoFileComp\n")

end Completion

def looksLikeFlag (arg : Bytes) : Bool :=
  match arg with
  | a :: b :: rest => a == Byte.dash && (b != Byte.dash || !rest.isEmpty)
  | _ => false

def flagName (arg : Bytes) : Bytes :=
  match Bytes.after? endOfFlags arg with
  | some name => name
  | none => arg.drop (arg.length - 1)

structure Unfinished where
  flag : Option Flag := none
  args : List Bytes
  last : Bytes
  error : Option CompletionError := none

namespace Place

def flag? (p : Place) (name : Bytes) : Option Flag :=
  match name with
  | [c] => p.flagsWithHelp.find? fun f => f.short == some c
  | _ => p.flagsWithHelp.find? fun f => f.name == name

/-- The name of the flag in the argument before the last, and the arguments without it. -/
def flagBefore (args : List Bytes) : Bytes × List Bytes :=
  match args.getLast? with
  | some arg =>
    if looksLikeFlag arg && !arg.contains Byte.eq then (flagName arg, args.dropLast) else ([], args)
  | none => ([], args)

def unfinished (p : Place) (args : List Bytes) (last : Bytes) : Unfinished :=
  let isFlag := last.head? == some Byte.dash
  if isFlag && !last.contains Byte.eq then { args := args, last := last }
  else
    let start := last.takeWhile (· != Byte.eq)
    let named : Bytes := if isFlag then flagName start else []
    let value := if isFlag then last.drop (start.length + 1) else last
    let (name, before) := if named.isEmpty then flagBefore args else (named, args)
    if name.isEmpty then { args := before, last := value }
    else
      match p.flag? name with
      | none => { args := args, last := last, error := some (.noFlag p.command.name name) }
      | some f =>
        if !isFlag && f.alone?.isSome then { args := args, last := value }
        else { flag := some f, args := before, last := value }

def flagChoices (last : Bytes) (f : Flag) : List (Bytes × Bytes) :=
  let long : Bytes := "--" ++ f.name
  let short : List Bytes := f.short.toList.map fun c => [Byte.dash, c]
  ((long :: short).filter last.isPrefixOf).map fun name => (name, f.help)

def isRepeatable (f : Flag) : Bool :=
  match f.initial with
  | .texts _ => true
  | _ => false

/-- The names of flags that a text can become: those from above first, and none that has been given
already unless it can be given again. -/
def flagNames (p : Place) (given : Parsed) (last : Bytes) : List (Bytes × Bytes) :=
  let sorted (flags : List Flag) := flags.mergeSort fun a b => Bytes.le a.name b.name
  let own := p.ownFlags ++ [helpFlag p.command.name]
  let isOpen (f : Flag) := isRepeatable f || !given.given.any (·.1 == f.name)
  ((sorted p.inherited ++ sorted own).filter isOpen).flatMap (flagChoices last)

def commandNames (p : Place) (last : Bytes) : List (Bytes × Bytes) :=
  let sorted := p.command.commands.mergeSort fun a b => Bytes.le a.name b.name
  (sorted.filter fun c => !c.isHidden && last.isPrefixOf c.name).map fun c => (c.name, c.summary)

/-- The names that a text behind words can become: commands below this one, if no word and no flag
of its own stands before it, and topics if this is the command that gives help. -/
def names (root p : Place) (given : Parsed) (last : Bytes) : Completion :=
  let hasOwn := given.given.any fun g => p.command.flags.any (·.name == g.1)
  let leads := given.words.isEmpty && !hasOwn && p.command.commands.any (!·.isHidden)
  let below := if leads then p.commandNames last else []
  let topics := match p.command.action, root.find given.words with
    | some .help, .ok (place, _) => place.commandNames last
    | _, _ => []
  { choices := below ++ topics, files := !leads && p.command.takesFiles }

def completeHere (root p : Place) (args : List Bytes) (last : Bytes) : Completion :=
  let typed : Unfinished :=
    if p.command.isRaw then { args := args, last := last } else p.unfinished args last
  let read (args : List Bytes) : Except FlagError Parsed :=
    if p.command.isRaw then .ok ⟨[], args⟩ else parse p.flagsWithHelp args
  match read typed.args with
  | .error e => { error := some (.flags typed.args e) }
  | .ok given =>
    let ended :=
      !p.command.isRaw && match read (typed.args ++ [endOfFlags]) with
        | .ok more => given.words.length < more.words.length
        | .error _ => false
    if typed.error.isSome && !ended then { error := typed.error }
    else if given.given.any fun g => g.1 == Bytes.ofString "help" then { files := false }
    else if typed.flag.isSome then
      if ended then { files := p.command.takesFiles } else {}
    else if typed.last.head? == some Byte.dash && !typed.last.contains Byte.eq && !ended then
      { choices := p.flagNames given typed.last, files := false }
    else names root p given typed.last

def complete (root : Place) (args : List Bytes) (last : Bytes) : Completion :=
  match root.find args with
  | .error _ => { error := some (.noCommand args) }
  | .ok (place, rest) => completeHere root place rest last

end Place

end Graft.Cli
