import Graft.Cli.Completion
import Graft.Cli.Program
import Graft.Http.Listen
import Graft.Manifest
import Graft.Settings

/-!
# Graft.Cli.Run

Running a command line: from arguments, environment and disk to what is printed, what is on the
disk afterwards and the exit code.

* `Cli.Failure`: why a run failed.
* `Cli.Outcome`: what a run leaves, and its exit code.
* `Cli.Setup`: what every command that does work needs.
* `Cli.run`: the whole.
-/

namespace Graft.Cli

inductive Failure where
  | command (e : UnknownCommand)
  | flags (e : FlagError)
  | wordCount (expected received : Nat)
  | tooFewWords (expected received : Nat)
  | settings (e : SettingsError)
  | logLevel (name : Bytes)
  | source (e : ReadError)
  | output (e : Disk.Failure)
  | manifest (e : Manifest.LoadError)
  | cacheSize
  | discovery (e : DiscoveryError)
  | report (e : Disk.Failure)
  | address (e : Http.PortError)
  | components

def Failure.message? : Failure → Option Bytes
  | command e => some e.message
  | flags e => some e.message
  | wordCount expected received =>
    some ("accepts " ++ Bytes.ofNat expected ++ " arg(s), received " ++ Bytes.ofNat received)
  | tooFewWords expected received =>
    some ("requires at least " ++ Bytes.ofNat expected ++ " arg(s), only received " ++
      Bytes.ofNat received)
  | settings e => some e.message
  | logLevel name => some ("create logger: " ++ Log.unknownLevel name)
  | source e => some e.message
  | output e => some e.message
  | manifest e => some e.message
  | cacheSize => some Cache.sizeError
  | discovery e => some e.message
  | report e => some (Report.saveMessage e)
  | address e => some e.message
  | components => none

def Failure.exitCode : Failure → UInt8
  | components => 2
  | _ => 1

structure Outcome where
  disk : Disk
  output : Bytes := []
  remarks : Bytes := []
  log : List Log.Entry := []
  format : Log.Format := .json
  failure : Option Failure := none

namespace Outcome

def failed (d : Disk) (f : Failure) : Outcome := { disk := d, failure := some f }

def exitCode (o : Outcome) : UInt8 :=
  match o.failure with
  | none => 0
  | some f => f.exitCode

def errors (o : Outcome) : Bytes :=
  match o.failure.bind Failure.message? with
  | none => o.remarks
  | some message => o.remarks ++ "Error: " ++ message ++ "\n"

end Outcome

/-! ## Setting up -/

structure Setup where
  settings : Settings
  level : Log.Level
  config : Build.Config

def override (p : Parsed) (s : Settings) : Settings :=
  { s with
    logLevel := (p.text? "log-level").getD s.logLevel
    logDevelopment := (p.truth? "dev").getD s.logDevelopment
    maxDepth := (p.integer? "max-depth").getD s.maxDepth
    padLines := (p.truth? "pad-lines").getD s.padLines
    root := (p.text? "fs-root").getD s.root }

def setup (env : Environment) (p : Parsed) (d : Disk) : Except Failure Setup :=
  match Settings.load env with
  | .error e => .error (.settings e)
  | .ok s =>
    match (override p s).check with
    | .error e => .error (.settings e)
    | .ok s =>
      match Log.Level.ofName? s.logLevel with
      | none => .error (.logLevel s.logLevel)
      | some level =>
        let options := Extend.Options.ofLimit s.maxDepth (if s.padLines then .line else .none)
        .ok ⟨s, level, ⟨.ofRoot d s.root, options⟩⟩

def Setup.logged (s : Setup) (o : Outcome) : Outcome :=
  { o with
    log := o.log.filter fun e => s.level.enabled e.level
    format := if s.settings.logDevelopment then .console else .json }

/-! ## Commands -/

def runTransform (s : Setup) (p : Parsed) (d : Disk) : Outcome :=
  let path := d.absolute (p.words.headD [])
  match s.config.loader.read d path with
  | .error e => .failed d (.source e)
  | .ok source =>
    let t := Extend.transform (s.config.loader.files false) s.config.options path source d
    let log := [t.entry ReadError.message path]
    match t.code with
    | .error _ => { disk := d, log := log, failure := some .components }
    | .ok code =>
      let out := (p.text? "out").getD []
      if out.isEmpty then { disk := d, log := log, output := code }
      else
        match d.store out code with
        | .error e => { disk := d, log := log, failure := some (.output e) }
        | .ok d => { disk := d, log := log }

def failureRemarks (r : Report) : Bytes :=
  let line (f : FileResult) : Bytes := "FAIL " ++ f.path ++ ": " ++ f.error ++ "\n"
  ((r.files.getD []).filter fun f => !f.error.isEmpty).flatMap line

/-- Several trees, built one after the other up to the first that cannot be searched. -/
structure Builds where
  shop : Build.Shop
  reports : List Report := []
  error : Option DiscoveryError := none

def Builds.remarks (b : Builds) : Bytes := b.reports.flatMap failureRemarks

def Builds.failed (b : Builds) : Bool := b.reports.any fun r => 0 < r.failed

/-- Builds trees one after the other; `ids` names the builds from number `n` on. -/
def buildAll (config : Build.Config) (ids : Nat → Bytes) :
    (n : Nat) → List Target → Build.Shop → Builds
  | _, [], shop => { shop := shop }
  | n, target :: rest, shop =>
    match Build.run config (ids n) false target shop with
    | (.error e, shop) => { shop := shop, error := some e }
    | (.ok report, shop) =>
      let others := buildAll config ids (n + 1) rest shop
      { others with reports := report :: others.reports }

def flagTarget (p : Parsed) : Target where
  root := (p.text? "root").getD Path.current
  pattern := (p.text? "pattern").getD Target.defaultPattern
  out := (p.text? "out").getD []
  exclude := (p.texts? "exclude").getD defaultExclude

/-- The trees to build: those of the manifest, if there is one. -/
def targets (p : Parsed) (d : Disk) : Except Failure (List Target) :=
  match p.text? "manifest" with
  | none => .ok [flagTarget p]
  | some path =>
    if path.isEmpty then .ok [flagTarget p]
    else
      match Manifest.load d path with
      | .error e => .error (.manifest e)
      | .ok m => .ok m.targets

def runBuild (s : Setup) (ids : Nat → Bytes) (p : Parsed) (d : Disk) : Outcome :=
  match targets p d with
  | .error f => .failed d f
  | .ok targets =>
    match Cache.ofSize? s.settings.cacheSize with
    | none => .failed d .cacheSize
    | some cache =>
      let b := buildAll s.config ids 0 targets ⟨d, some cache, .empty⟩
      let outcome : Outcome := { disk := b.shop.disk, remarks := b.remarks }
      match b.error with
      | some e => { outcome with failure := some (.discovery e) }
      | none =>
        let verdict := if b.failed then some .components else none
        let path := (p.text? "report").getD []
        if path.isEmpty then { outcome with failure := verdict }
        else
          match Report.save b.shop.disk path (b.reports.map some) with
          | .error e => { outcome with failure := some (.report e) }
          | .ok d =>
            let entry : Log.Entry := ⟨.info, [], "report written", [("path", .text path)]⟩
            { outcome with disk := d, log := [entry], failure := verdict }

/-- Finds out where to listen; a service that can listen there runs until it is stopped. -/
def runServe (s : Setup) (p : Parsed) (d : Disk) : Outcome :=
  let host := (p.text? "host").getD s.settings.host
  let port := (p.text? "port").getD s.settings.port
  match Http.port host port with
  | .error e => .failed d (.address e)
  | .ok _ => { disk := d }

def canBackquote (s : Bytes) : Bool :=
  (Utf8.pieces s).all fun piece => match piece with
    | .char c =>
      c.toNat != 0xFEFF && c.toNat != 0x60 && c.toNat != 0x7F &&
        (0x20 ≤ c.toNat || c.toNat == 0x09)
    | .illFormed _ => false

/-- A text between backquotes, or between double quotes if it cannot stand there. -/
def backquoted (s : Bytes) : Bytes := if canBackquote s then "`" ++ s ++ "`" else Quoted.quote s

def runHelp (p : Parsed) (d : Disk) : Outcome :=
  match root.find p.words with
  | .ok (place, _) => { disk := d, output := place.help }
  | .error _ =>
    let topic : Bytes := "[" ++ Bytes.joinWith " " (p.words.map backquoted) ++ "]"
    { disk := d, remarks := "Unknown help topic " ++ topic ++ "\n" ++ root.usage root.ownFlags }

def descriptionsVariable : Bytes := "SFCX_COMPLETION_DESCRIPTIONS"

/-- Whether choices come with descriptions: not if the name of the command says so, and else as the
environment has it. -/
def withDescriptions (env : Environment) (word : Bytes) : Bool :=
  if word != completeCommand.name then false
  else
    match Numeral.readBool ((env.lookup descriptionsVariable).getD []) with
    | .ok b => b
    | .error _ => true

def runComplete (env : Environment) (word : Bytes) (args : List Bytes) (d : Disk) : Outcome :=
  let c := rootWithHidden.complete args.dropLast (args.getLastD [])
  { disk := d, output := c.text (withDescriptions env word), remarks := c.remarks }

/-! ## The whole -/

def checkWords (place : Place) (words : List Bytes) : Option Failure :=
  match place.command.arity with
  | .any => none
  | .zero => words.head?.map fun word => .command ⟨word, place.path, []⟩
  | .exactly n => if words.length = n then none else some (.wordCount n words.length)
  | .atLeast n => if words.length < n then some (.tooFewWords n words.length) else none

/-- Does what a command does; `word` is the name it was called by. -/
def perform (env : Environment) (ids : Nat → Bytes) (word : Bytes) (action : Action) (p : Parsed)
    (d : Disk) : Outcome :=
  let working (command : Setup → Outcome) : Outcome :=
    match setup env p d with
    | .error f => .failed d f
    | .ok s => s.logged (command s)
  match action with
  | .transform => working fun s => runTransform s p d
  | .build => working fun s => runBuild s ids p d
  | .serve => working fun s => runServe s p d
  | .version => { disk := d, output := versionText }
  | .help => runHelp p d
  | .script shell => { disk := d, output := script shell }
  | .complete => runComplete env word p.words d

def find (args : List Bytes) : Except UnknownCommand (Place × List Bytes) :=
  match rootWithHidden.find args with
  | .ok (place, rest) => if place.command.isHidden then .ok (place, rest) else root.find args
  | .error _ => root.find args

/-- Runs a command line. Asking for help comes before any other fault than one of the flags, and a
command that does nothing itself shows its help text. -/
def run (env : Environment) (ids : Nat → Bytes) (args : List Bytes) (d : Disk) : Outcome :=
  match find args with
  | .error e => .failed d (.command e)
  | .ok (place, rest) =>
    match if place.command.isRaw then .ok ⟨[], rest⟩ else parse place.flagsWithHelp rest with
    | .error e => .failed d (.flags e)
    | .ok p =>
      if p.truth? "help" = some true then { disk := d, output := place.help }
      else
        match place.command.action with
        | none => { disk := d, output := place.help }
        | some action =>
          match checkWords place p.words with
          | some f => .failed d f
          | none => perform env ids place.word action p d

end Graft.Cli
