import Shakedown.CommandLine.Arguments
import Shakedown.Path.Basic

/-!
# Requests

What a user asks of the runner: to run a plan, to check one, or to show the built-in one, and how much
to say about it. Without a command the built-in plan is run. Options that hold for all commands may
stand before or after the command; after it they count.
-/

namespace Shakedown.CommandLine

/-- A run that is asked for. -/
structure RunRequest where
  plan : Option Path := none
  root : Option Path := none
  skipBuild : Bool := false
  report : Option Path := none
  quiet : Bool := false
deriving DecidableEq, Repr

/-- What the runner can do. -/
inductive Command where
  | run (request : RunRequest)
  | validate (plan : Path)
  | showPlan
deriving DecidableEq, Repr

/-- What is done without a command. -/
def Command.standard : Command := .run {}

/-- A request: the command, how often more was asked to be told, and the file that diagnostics go to as
well. -/
structure Request where
  verbosity : Nat := 0
  logFile : Option Path := none
  command : Command := .standard
deriving DecidableEq, Repr

namespace Request

/-- The options that hold for all commands. -/
def sharedOptions : List OptionForm :=
  [⟨"verbose", some 'v', .counts⟩, ⟨"log-file", none, .takes .path⟩, helpOption]

/-- The name of the command that explains commands. -/
def helpCommand : String := "help"

/-- The grammar before a command. -/
def grammar : Grammar :=
  { options := versionOption :: sharedOptions, commands := ["run", "validate", "show-plan", helpCommand] }

/-- The grammar after the command `run`. -/
def runGrammar : Grammar :=
  { options := sharedOptions ++ [⟨"root", none, .takes .path⟩, ⟨"skip-build", none, .switches⟩,
      ⟨"report", none, .takes .path⟩, ⟨"quiet", some 'q', .switches⟩],
    operands := [.path] }

/-- The grammar after the command `validate`. -/
def validateGrammar : Grammar := { options := sharedOptions, operands := [.path] }

/-- The grammar after the command `show-plan`. -/
def showGrammar : Grammar := { options := sharedOptions }

/-- The run that arguments ask for. -/
def runRequest (g : Given) : RunRequest :=
  { plan := g.operands.head?.map Path.mk
    root := (g.value? "root").map Path.mk
    skipBuild := g.isOn "skip-build"
    report := (g.value? "report").map Path.mk
    quiet := g.isOn "quiet" }

/-- A command with what was given before and after its name. -/
def assemble (before after : Given) (c : Command) : Request :=
  { verbosity := if after.isOn "verbose" then after.count "verbose" else before.count "verbose"
    logFile := ((after.value? "log-file").or (before.value? "log-file")).map Path.mk
    command := c }

/-- A command by its name, with the arguments after it. Help is asked for as a whole or for one command,
since no command has commands of its own. -/
def ofCommand (before : Given) (name : String) (args : List String) : Except Refusal Request :=
  match name with
  | "run" => do
    let after := (← runGrammar.scan args).given
    return assemble before after (.run (runRequest after))
  | "validate" => do
    let after := (← validateGrammar.scan args).given
    match after.operands with
    | plan :: _ => return assemble before after (.validate ⟨plan⟩)
    | [] => throw .misuse
  | "show-plan" => do
    let after := (← showGrammar.scan args).given
    return assemble before after .showPlan
  | _ => throw (if args.length < 2 && args.all grammar.commands.contains then .asked .help else .misuse)

/-- The request that arguments make. -/
def parse (args : List String) : Except Refusal Request := do
  let scanned ← grammar.scan args
  match scanned.command with
  | some (name, rest) => ofCommand scanned.given name rest
  | none => return assemble scanned.given {} .standard

/-- The words on how the runner is asked. -/
def usage : String :=
  "End-to-end smoke test runner\n\n" ++
  "Usage: smoke [OPTIONS] [COMMAND]\n\n" ++
  "Commands:\n" ++
  "  run        Run a smoke test plan (the built-in plan by default)\n" ++
  "  validate   Check that a plan file parses and is valid\n" ++
  "  show-plan  Print the built-in plan\n" ++
  "  help       Print this message\n\n" ++
  "Options:\n" ++
  "  -v, --verbose...           Increase log verbosity (-v debug, -vv trace)\n" ++
  "      --log-file <LOG_FILE>  Also write logs to this file\n" ++
  "  -h, --help                 Print help\n" ++
  "  -V, --version              Print version\n"

/-- The name of the runner and its version. -/
def version : String := "smoke 0.1.0\n"

end Request
end Shakedown.CommandLine
