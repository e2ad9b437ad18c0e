import Graft.Build
import Graft.Cli.Help

/-!
# Graft.Cli.Program

The commands of the program.

* `Cli.transformCommand`, `Cli.buildCommand`, `Cli.serveCommand`, `Cli.versionCommand`: its work.
* `Cli.helpCommand`, `Cli.completionCommand`: help, and scripts for shells.
* `Cli.program`: all of them under the outermost one.
-/

namespace Graft.Cli

def textFlag (name help : Bytes) (initial : Bytes := []) : Flag :=
  { name := name, initial := .text initial, help := help }

def truthFlag (name help : Bytes) : Flag :=
  { name := name, initial := .truth false, help := help }

def integerFlag (name help : Bytes) : Flag :=
  { name := name, initial := .integer 0, help := help }

def lines (l : List String) : Bytes := Bytes.joinWith "\n" (l.map Bytes.ofString)

def programName : Bytes := "sfcx"

/-- What a build leaves out unless told otherwise. -/
def defaultExclude : List Bytes := ["**/node_modules/**"]

def transformCommand : Command where
  name := "transform"
  operands := ["FILE"]
  summary := "Resolve one component and print the result"
  action := some .transform
  arity := .exactly 1
  flags :=
    [{ name := "out"
       short := some 0x6F
       initial := .text []
       help := "Write the result to this file instead of stdout" }]

def buildCommand : Command where
  name := "build"
  summary := "Transform every matching component below a directory"
  examples := lines
    ["  sfcx build --root src --out dist/src",
      "  sfcx build --manifest sfcx.yaml --report build-report.json"]
  action := some .build
  flags :=
    [textFlag "root" "Directory to search for components" Path.current,
      textFlag "pattern" "Glob selecting components, relative to --root" Target.defaultPattern,
      textFlag "out" "Output directory (nothing is written when empty)",
      { name := "exclude", initial := .texts defaultExclude, help := "Globs to skip" },
      textFlag "manifest" "YAML or TOML manifest listing build targets",
      textFlag "report" "Write a JSON report to this file",
      integerFlag "workers" "Concurrent transforms (0 uses all CPUs)"]

def serveCommand : Command where
  name := "serve"
  summary := "Serve the transform over HTTP"
  action := some .serve
  flags :=
    [textFlag "host" "Listen host (default $HOST or 127.0.0.1)",
      textFlag "port" "Listen port (default $PORT or 8000)"]

def versionCommand : Command where
  name := "version"
  summary := "Show version information"
  action := some .version

def helpCommand : Command where
  name := "help"
  operands := ["[command]"]
  summary := "Help about any command"
  description := lines
    ["Help provides help for any command in the application.",
      "Simply type sfcx help [path to command] for full details."]
  action := some .help
  takesFiles := false

/-! ## Scripts for shells -/

/-- How a script is put to use: now, and in every session to come. -/
def loading (now : String) (later : List String) : List String :=
  ["To load completions in your current shell session:", "", "\t" ++ now, ""] ++ later

/-- What a session needs once for each of two systems. -/
def onSystems (linux macOS : String) : List String :=
  ["To load completions for every new session, execute once:", "",
    "#### Linux:", "", "\t" ++ linux, "", "#### macOS:", "", "\t" ++ macOS, ""]

def newShell : String := "You will need to start a new shell for this setup to take effect."

def shellCommand (shell : Bytes) (description : List String) : Command where
  name := shell
  summary := "Generate the autocompletion script for " ++ shell
  description := lines description
  action := some (.script shell)
  arity := .zero
  mentionsFlags := false
  takesFiles := false
  flags := [truthFlag "no-descriptions" "disable completion descriptions"]

def bashCommand : Command := shellCommand "bash" <|
  ["Generate the autocompletion script for the bash shell.", "",
    "This script depends on the 'bash-completion' package.",
    "If it is not installed already, you can install it via your OS's package manager.", ""] ++
  loading "source <(sfcx completion bash)"
    (onSystems "sfcx completion bash > /etc/bash_completion.d/sfcx"
      "sfcx completion bash > $(brew --prefix)/etc/bash_completion.d/sfcx") ++
  [newShell]

def zshCommand : Command := shellCommand "zsh" <|
  ["Generate the autocompletion script for the zsh shell.", "",
    "If shell completion is not already enabled in your environment you will need",
    "to enable it.  You can execute the following once:", "",
    "\techo \"autoload -U compinit; compinit\" >> ~/.zshrc", ""] ++
  loading "source <(sfcx completion zsh)"
    (onSystems "sfcx completion zsh > \"$\x7bfpath[1]\x7d/_sfcx\""
      "sfcx completion zsh > $(brew --prefix)/share/zsh/site-functions/_sfcx") ++
  [newShell]

def fishCommand : Command := shellCommand "fish" <|
  ["Generate the autocompletion script for the fish shell.", ""] ++
  loading "sfcx completion fish | source"
    ["To load completions for every new session, execute once:", "",
      "\tsfcx completion fish > ~/.config/fish/completions/sfcx.fish", ""] ++
  [newShell]

def powershellCommand : Command := shellCommand "powershell" <|
  ["Generate the autocompletion script for powershell.", ""] ++
  loading "sfcx completion powershell | Out-String | Invoke-Expression"
    ["To load completions for every new session, add the output of the above command",
      "to your powershell profile."]

def completionCommand : Command where
  name := "completion"
  summary := "Generate the autocompletion script for the specified shell"
  description := lines
    ["Generate the autocompletion script for sfcx for the specified shell.",
      "See each sub-command's help for details on how to use the generated script."]
  arity := .zero
  takesFiles := false
  commands := [bashCommand, zshCommand, fishCommand, powershellCommand]

def completeCommand : Command where
  name := "__complete"
  aliases := ["__completeNoDesc"]
  action := some .complete
  arity := .atLeast 1
  isRaw := true
  isHidden := true

/-! ## The program -/

def program : Command where
  name := programName
  summary := "Template inheritance for single-file components"
  description := lines
    ["sfcx resolves <template extends=\"...\"> chains in single-file components.", "",
      "A base component marks splice sites with <extension-point name=\"...\">,",
      "a child overrides them inside <extensions><extension point=\"...\">.",
      "The output is one merged component for the regular compiler.", "",
      "Exit Codes:",
      "  0 - Success",
      "  1 - General or usage error",
      "  2 - One or more components failed to transform"]
  shared :=
    [textFlag "log-level" "Log level (debug, info, warn, error)",
      truthFlag "dev" "Human readable console logs",
      integerFlag "max-depth" "Maximum extends chain length",
      truthFlag "pad-lines" "Pad blocks so compiler line numbers match the source file",
      textFlag "fs-root" "Refuse to read files outside this directory"]
  commands :=
    [transformCommand, buildCommand, serveCommand, versionCommand, helpCommand, completionCommand]

def root : Place := { command := program }

def rootWithHidden : Place :=
  { command := { program with commands := program.commands ++ [completeCommand] } }

def versionText : Bytes := "sfcx dev (unknown) linux/amd64\n"

def commandNames : Bytes :=
  Bytes.joinWith " " (Bytes.sort (program.commands.map Command.name))

/-- A script that completes the names of the commands in a shell. -/
def script (shell : Bytes) : Bytes :=
  if shell = Bytes.ofString "bash" then "complete -W \"" ++ commandNames ++ "\" sfcx\n"
  else if shell = Bytes.ofString "zsh" then "#compdef sfcx\ncompadd " ++ commandNames ++ "\n"
  else if shell = Bytes.ofString "fish" then "complete -c sfcx -f -a \"" ++ commandNames ++ "\"\n"
  else
    "Register-ArgumentCompleter -Native -CommandName sfcx -ScriptBlock \x7b \"" ++ commandNames ++
      "\".Split(\" \") \x7d\n"

end Graft.Cli
