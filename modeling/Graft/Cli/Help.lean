import Graft.Cli.Command

/-!
# Graft.Cli.Help

Help texts: what a command does, how it is used, the commands below it and its flags, each list in
the order of the names.

* `Cli.flagTable`: one line for each flag, help texts aligned.
* `Cli.Place.usage`: how a command is used.
* `Cli.Place.help`: the whole help text.
-/

namespace Graft.Cli

/-- The default of a flag as its help text tells it, unless it is empty, zero or false. -/
def Value.remark : Value → Bytes
  | text s => if s.isEmpty then [] else " (default " ++ Quoted.quote s ++ ")"
  | truth b => if b then " (default true)" else []
  | integer n => if n = 0 then [] else " (default " ++ Bytes.ofInt n ++ ")"
  | texts l => if l.isEmpty then [] else " (default [" ++ Bytes.joinWith "," l ++ "])"

def Flag.spelling (f : Flag) : Bytes :=
  let start : Bytes := if f.short.isNone then "      " else "  "
  let word : Bytes := if f.initial.word.isEmpty then [] else " " ++ f.initial.word
  start ++ f.label ++ word

def blanks (n : Nat) : Bytes := List.replicate n Byte.space

def flagTable (flags : List Flag) : Bytes :=
  let sorted := flags.mergeSort fun a b => Bytes.le a.name b.name
  let width := (flags.map fun f => f.spelling.length).foldl max 0
  let line (f : Flag) : Bytes :=
    f.spelling ++ blanks (width - f.spelling.length + 3) ++ f.help ++ f.initial.remark
  Bytes.joinWith "\n" (sorted.map line)

def nameWidth : Nat := 11

def commandTable (commands : List Command) : Bytes :=
  let sorted := commands.mergeSort fun a b => Bytes.le a.name b.name
  let width := (commands.map fun c => c.name.length).foldl max nameWidth
  let line (c : Command) : Bytes :=
    "  " ++ c.name ++ blanks (width - c.name.length + 1) ++ c.summary
  Bytes.joinWith "\n" (sorted.map line)

def helpFlag (name : Bytes) : Flag where
  name := "help"
  short := some 0x68
  initial := .truth false
  help := "help for " ++ name

/-- A part of a usage text with its title; an empty one is left out. -/
def titled (title body : Bytes) : Bytes :=
  if body.isEmpty then [] else "\n\n" ++ title ++ ":\n" ++ body

namespace Place

def flagsWithHelp (p : Place) : List Flag := p.flags ++ [helpFlag p.command.name]

def useLine (p : Place) : Bytes :=
  let flags : List Bytes := if p.command.mentionsFlags then ["[flags]"] else []
  Bytes.joinWith " " (p.path :: p.command.operands ++ flags)

def usage (p : Place) (own : List Flag) : Bytes :=
  let line : Bytes := if p.command.action.isSome then "\n  " ++ p.useLine else []
  let group : Bytes := if p.command.commands.isEmpty then [] else "\n  " ++ p.path ++ " [command]"
  let more : Bytes :=
    if p.command.commands.isEmpty then []
    else "\n\nUse \"" ++ p.path ++ " [command] --help\" for more information about a command."
  "Usage:" ++ line ++ group ++ titled "Examples" p.command.examples ++
    titled "Available Commands" (commandTable p.command.commands) ++
    titled "Flags" (flagTable own) ++ titled "Global Flags" (flagTable p.inherited) ++ more ++ "\n"

/-- The flags a command does not have from above. -/
def ownFlags (p : Place) : List Flag := p.command.shared ++ p.command.flags

def help (p : Place) : Bytes :=
  let text := if p.command.description.isEmpty then p.command.summary else p.command.description
  text ++ "\n\n" ++ p.usage (p.ownFlags ++ [helpFlag p.command.name])

end Place

end Graft.Cli
