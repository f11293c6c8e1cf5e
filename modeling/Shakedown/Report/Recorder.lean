import Shakedown.Report.Basic

/-!
# Recording a run

A recorder holds the phase of a run and its finished steps; the caller supplies the time since the
run started.
-/

namespace Shakedown

/-- What has been recorded of a run so far. -/
structure Recorder where
  phase : Phase
  steps : List StepRecord
deriving DecidableEq, Repr

/-- A step that has started and not ended. -/
structure OpenStep where
  kind : StepKind
  name : String
  startedMs : Nat
deriving DecidableEq, Repr

/-- The record of an open step that ends. -/
def OpenStep.close (step : OpenStep) (finishedMs : Nat) (status : StepStatus) (exitCode : ExitCode)
    (detail : Option String) : StepRecord :=
  ⟨step.kind, step.name, status, step.startedMs, finishedMs, exitCode, detail⟩

namespace Recorder

/-- The recorder of a run that has not started. -/
def new : Recorder := ⟨.notStarted, []⟩

/-- The run enters a phase. -/
def enter (r : Recorder) (phase : Phase) : Recorder := { r with phase := phase }

/-- An open step ends and is recorded. -/
def finish (r : Recorder) (step : OpenStep) (finishedMs : Nat) (status : StepStatus)
    (exitCode : ExitCode) (detail : Option String) : Recorder :=
  { r with steps := r.steps ++ [step.close finishedMs status exitCode detail] }

/-- The report of a run that ends with the given failure, or without one. -/
def toReport (r : Recorder) (name : String) (failure : Option Failure) (serverTerminated : Bool)
    (durationMs : Nat) : RunReport where
  name := name
  passed := failure.isNone
  phase := r.phase
  steps := r.steps
  serverTerminated := serverTerminated
  failure := failure.map fun f => ⟨f.kind, f.message⟩
  exitCode := (failure.map Failure.exitCode).getD 0
  durationMs := durationMs

end Recorder
end Shakedown
