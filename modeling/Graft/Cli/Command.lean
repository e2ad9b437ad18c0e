import Graft.Cli.Flag
import Graft.Text.Lower

/-!
# Graft.Cli.Command

A tree of commands and the way from a command line to one of them. The first word that is no flag
and no value of one names the next command; a flag is taken to have a value in the next argument
unless it is known to need none.

* `Cli.Command`: a command and those below it.
* `Cli.Place`: a command with the way to it.
* `Cli.firstWord?`: the word that can name a command.
* `Cli.Place.descend`, `Cli.Place.find`: the command of a command line.
* `Cli.Place.suggestions`: the names a mistyped one can stand for.
-/

namespace Graft.Cli

inductive Action where
  | transform
  | build
  | serve
  | version
  | help
  | script (shell : Bytes)
  | complete
deriving DecidableEq, Repr

/-- How many words a command takes. -/
inductive Arity where
  | any
  | zero
  | exactly (n : Nat)
  | atLeast (n : Nat)
deriving DecidableEq, Repr

/-- A command and those below it. One without an action only holds others. -/
structure Command where
  name : Bytes
  aliases : List Bytes := []
  operands : List Bytes := []
  summary : Bytes := []
  description : Bytes := []
  examples : Bytes := []
  action : Option Action := none
  arity : Arity := .any
  mentionsFlags : Bool := true
  flags : List Flag := []
  shared : List Flag := []
  isRaw : Bool := false
  isHidden : Bool := false
  takesFiles : Bool := true
  commands : List Command := []

def Command.goesBy (c : Command) (word : Bytes) : Bool := c.name == word || c.aliases.contains word

/-- A command with the names of the commands above it, outermost first, and the flags it has from
them. -/
structure Place where
  above : List Bytes := []
  inherited : List Flag := []
  word : Bytes := []
  command : Command

namespace Place

def flags (p : Place) : List Flag := p.inherited ++ p.command.shared ++ p.command.flags

def path (p : Place) : Bytes := Bytes.joinWith " " (p.above ++ [p.command.name])

def below (p : Place) (word : Bytes) (c : Command) : Place where
  above := p.above ++ [p.command.name]
  inherited := p.inherited ++ p.command.shared
  word := word
  command := c

end Place

/-! ## Finding a command -/

def takesNext (flags : List Flag) (arg : Bytes) : Bool :=
  if arg.contains Byte.eq then false
  else
    match Bytes.after? endOfFlags arg with
    | some name => !flags.any fun f => f.name == name && f.alone?.isSome
    | none =>
      match arg with
      | [dash, c] => dash == Byte.dash && !flags.any fun f => f.short == some c && f.alone?.isSome
      | _ => false

/-- The first word that is no flag and no value of one, and the arguments without it. A flag whose
value would be the last argument ends the search. -/
def firstWord? (flags : List Flag) : List Bytes → Option (Bytes × List Bytes)
  | [] => none
  | arg :: rest =>
    if arg = endOfFlags then none
    else if takesNext flags arg then
      match rest with
      | value :: next :: rest =>
        (firstWord? flags (next :: rest)).map fun (word, others) => (word, arg :: value :: others)
      | _ => none
    else if arg.isEmpty || arg.head? == some Byte.dash then
      (firstWord? flags rest).map fun (word, others) => (word, arg :: others)
    else some (arg, rest)

theorem firstWord?_length {flags : List Flag} {args rest : List Bytes} {word : Bytes}
    (h : firstWord? flags args = some (word, rest)) : rest.length < args.length := by
  induction hn : args.length using Nat.strongRecOn generalizing args rest with
  | ind n ih =>
    subst hn
    have behind (start more : List Bytes) (hs : start ++ more = args) (hne : start ≠ [])
        (hf : (firstWord? flags more).map (fun f => (f.1, start ++ f.2)) = some (word, rest)) :
        rest.length < args.length := by
      obtain ⟨⟨found, kept⟩, hfound, heq⟩ := Option.map_eq_some_iff.1 hf
      cases heq
      have hpos := List.length_pos_iff.2 hne
      have hlen : args.length = start.length + more.length := by rw [← hs, List.length_append]
      have := ih more.length (by omega) hfound rfl
      simp only [List.length_append]
      omega
    unfold firstWord? at h
    split at h
    · cases h
    · rename_i arg more
      split at h
      · cases h
      · split at h
        · split at h
          · rename_i value next tail
            exact behind [arg, value] (next :: tail) rfl (by simp) h
          · cases h
        · split at h
          · exact behind [arg] more rfl (by simp) h
          · cases h
            simp

namespace Place

def descend (p : Place) (args : List Bytes) : Place × List Bytes :=
  match _h : firstWord? p.flags args with
  | none => (p, args)
  | some (word, rest) =>
    match p.command.commands.find? fun c => c.goesBy word with
    | none => (p, args)
    | some c => (p.below word c).descend rest
termination_by args.length
decreasing_by exact firstWord?_length (by assumption)

end Place

/-! ## Mistyped names -/

/-- The next row of the table of edit distances: from a text with one more byte `c` to every start
of another text. `left` is the distance before, and `row` the row above. -/
def nextRow (c : UInt8) : (text : Bytes) → (row : List Nat) → (left : Nat) → List Nat
  | d :: text, corner :: up :: row, left =>
    let cost := if c = d then corner else min (min left up) corner + 1
    cost :: nextRow c text (up :: row) cost
  | _, _, _ => []

def distance (s t : Bytes) : Nat :=
  let row := s.foldl (fun row c =>
    let left := row.headD 0 + 1
    left :: nextRow c t row left) (List.range (t.length + 1))
  row.getLastD 0

def nearby : Nat := 2

def Place.suggestions (p : Place) (word : Bytes) : List Bytes :=
  let names := (p.command.commands.filter fun c => c.action != some .help).map Command.name
  names.filter fun name =>
    distance (Lower.text word) (Lower.text name) ≤ nearby ||
      (Lower.text word).isPrefixOf (Lower.text name)

structure UnknownCommand where
  name : Bytes
  path : Bytes
  suggestions : List Bytes
deriving DecidableEq, Repr

def UnknownCommand.message (e : UnknownCommand) : Bytes :=
  let line (name : Bytes) : Bytes := "\t" ++ name ++ "\n"
  let hint : Bytes :=
    if e.suggestions.isEmpty then []
    else "\n\nDid you mean this?\n" ++ e.suggestions.flatMap line
  "unknown command " ++ Quoted.quote e.name ++ " for " ++ Quoted.quote e.path ++ hint

def Place.find (root : Place) (args : List Bytes) : Except UnknownCommand (Place × List Bytes) :=
  let (place, rest) := root.descend args
  if place.above.isEmpty && !place.command.commands.isEmpty then
    match firstWord? place.flags rest with
    | some (word, _) => .error ⟨word, place.path, place.suggestions word⟩
    | none => .ok (place, rest)
  else .ok (place, rest)

end Graft.Cli
