import Shakedown.CommandLine.Execution

/-!
# The runner as a program

The arguments are read, the diagnostics are prepared, and the command is executed. The exit status is
the low byte of the exit code: that of the command, or that of the failure which kept it from being
executed. A log file that cannot be opened makes the program panic.
-/

namespace Shakedown.CommandLine

/-- How the program ends: as it was misused, with an exit status, or in a panic. What is printed of a panic is left
out. -/
inductive Conclusion where
  | misused
  | ended (status : Nat)
  | panicked (reason : String)
deriving DecidableEq, Repr

/-- The exit status for an exit code: its low byte. -/
def statusOf (code : Int) : Nat := (code % 256).toNat

/-- The exit status of the program. -/
def Conclusion.status : Conclusion → Nat
  | .misused => 2
  | .ended n => n
  | .panicked _ => 101

variable {σ : Type} (around : Surroundings σ)

/-- Diagnostics go to a file as well, if it has a name and its directory can be made. The program panics
if the file cannot be opened then. -/
def openLog (path : Path) (s : σ) : Except String σ :=
  if path.fileName.isNone then
    .ok (around.printError s!"Warning: Log file path has no file name: {path.text}\n" s)
  else
    let directory := match path.parent with
      | some dir => if dir.text.isEmpty then Path.mk "." else dir
      | none => ⟨"."⟩
    match around.makeDirectories directory s with
    | .error reason => .ok (around.printError s!"Warning: Could not create log directory: {reason}\n" s)
    | .ok s => around.keepLog path s

/-- The diagnostics of a request are prepared. -/
def prepareLog (r : Request) (s : σ) : Except String σ :=
  let filter := Log.Filter.choose (around.variable_ s "RUST_LOG") r.verbosity
  match r.logFile with
  | some path => openLog around path (around.tell filter s)
  | none => .ok (around.tell filter s)

/-- A request is met. -/
def meet (r : Request) (s : σ) : Conclusion × σ :=
  match prepareLog around r s with
  | .error reason => (.panicked reason, s)
  | .ok s =>
    match execute around r.command s with
    | (.ok code, s) => (.ended (statusOf code), s)
    | (.error f, s) => (.ended (statusOf f.exitCode), around.printError (complaint f) s)

/-- The program is run with its arguments. -/
def runProgram (args : List String) (s : σ) : Conclusion × σ :=
  match Request.parse args with
  | .ok r => meet around r s
  | .error .misuse => (.misused, around.printError Request.usage s)
  | .error (.asked .help) => (.ended 0, around.outside.print Request.usage s)
  | .error (.asked .version) => (.ended 0, around.outside.print Request.version s)

end Shakedown.CommandLine
