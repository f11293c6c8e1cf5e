/-!
# Failures

What can end a run: the failing step as a constructor, its sentence (`Failure.message`), the stable
word for its kind (`Failure.kind`), and the exit status it leads to (`Failure.exitCode`). A failed
build and a failed client pass the exit code of their child on.
-/

namespace Shakedown

/-- A request from outside to end the run. -/
inductive Interrupt where
  | ctrlC
  | terminate
deriving DecidableEq, Repr

/-- The name of the signal behind a request. -/
def Interrupt.signalName : Interrupt → String
  | .ctrlC => "SIGINT"
  | .terminate => "SIGTERM"

/-- How a child process ended: with an exit code, or by a signal without one. -/
abbrev ExitCode := Option Int

/-- The exit code in words. -/
def ExitCode.describe : ExitCode → String
  | some code => s!"exit code {code}"
  | none => "no exit code (terminated by signal)"

/-- A failure, with what its sentence needs. -/
inductive Failure where
  | build (command : String) (code : ExitCode)
  | buildToolUnavailable (program reason : String)
  | launch (target reason : String)
  | serverExited (target : String) (code : ExitCode)
  | readinessTimeout (secs : Nat) (probe : String)
  | invocation (name : String) (code : ExitCode) (stderrTail : String)
  | invocationSpawn (name reason : String)
  | invocationTimeout (name : String) (secs : Nat)
  | assertion (text : String)
  | interrupted (by_ : Interrupt)
  | configuration (text : String)
  | settings (text : String)
  | plan (text : String)
  | inputOutput (text : String)
  | fileRead (path reason : String)
  | json (text : String)
  | internal (text : String)
deriving DecidableEq, Repr

/-- The stable words for the kinds of failure. -/
inductive FailureKind where
  | build
  | launch
  | readinessTimeout
  | invocation
  | invocationTimeout
  | assertion
  | interrupt
  | configuration
  | inputOutput
  | internal
deriving DecidableEq, Repr

/-- A kind as reports write it. -/
def FailureKind.text : FailureKind → String
  | .build => "BUILD_ERROR"
  | .launch => "LAUNCH_ERROR"
  | .readinessTimeout => "READINESS_TIMEOUT"
  | .invocation => "INVOCATION_ERROR"
  | .invocationTimeout => "INVOCATION_TIMEOUT"
  | .assertion => "ASSERTION_FAILED"
  | .interrupt => "SIGNAL_INTERRUPT"
  | .configuration => "CONFIG_ERROR"
  | .inputOutput => "IO_ERROR"
  | .internal => "INTERNAL_ERROR"

namespace Failure

/-- The sentence that tells a user what failed. -/
def message : Failure → String
  | .build command code => s!"Build failed: '{command}' exited with {code.describe}"
  | .buildToolUnavailable program reason => s!"Build tool '{program}' could not be started: {reason}"
  | .launch target reason => s!"Failed to launch '{target}': {reason}"
  | .serverExited target code => s!"Server '{target}' exited with {code.describe} before it became ready"
  | .readinessTimeout secs probe => s!"Server not ready after {secs} seconds ({probe})"
  | .invocation name code tail =>
    s!"{name} failed: client exited with {code.describe}" ++ (if tail.isEmpty then "" else "\n" ++ tail)
  | .invocationSpawn name reason => s!"{name} could not be started: {reason}"
  | .invocationTimeout name secs => s!"{name} timed out after {secs} seconds"
  | .assertion text => s!"Test assertion failed: {text}"
  | .interrupted i => s!"Interrupted by {i.signalName}"
  | .configuration text => s!"Configuration error: {text}"
  | .settings text => s!"Invalid configuration file: {text}"
  | .plan text => s!"Invalid test plan: {text}"
  | .inputOutput text => s!"IO error: {text}"
  | .fileRead path reason => s!"Failed to read file '{path}': {reason}"
  | .json text => s!"JSON error: {text}"
  | .internal text => s!"Internal error: {text}"

/-- The kind of a failure. -/
def kind : Failure → FailureKind
  | .build .. | .buildToolUnavailable .. => .build
  | .launch .. | .serverExited .. => .launch
  | .readinessTimeout .. => .readinessTimeout
  | .invocation .. | .invocationSpawn .. => .invocation
  | .invocationTimeout .. => .invocationTimeout
  | .assertion .. => .assertion
  | .interrupted .. => .interrupt
  | .configuration .. | .settings .. | .plan .. => .configuration
  | .fileRead .. | .inputOutput .. => .inputOutput
  | .json .. | .internal .. => .internal

/-- The exit status of a run that ends with the failure. -/
def exitCode : Failure → Int
  | .build _ code | .invocation _ code _ =>
    match code with
    | some c => if c ≠ 0 then c else 1
    | none => 1
  | .invocationTimeout .. => 124
  | .interrupted .ctrlC => 130
  | .interrupted .terminate => 143
  | .configuration .. | .settings .. | .plan .. => 2
  | _ => 1

/-- The exit code of the child process behind the failure, if it is known. -/
def childCode : Failure → ExitCode
  | .build _ code | .invocation _ code _ | .serverExited _ code => code
  | _ => none

end Failure
end Shakedown
