import Shakedown.Failure

/-!
# Run reports

The phases of a run, the records of its steps, and the report made of them.
-/

namespace Shakedown

/-- Where a run stands; a query carries its position, counted from one. -/
inductive Phase where
  | notStarted
  | building
  | serverStarting
  | ready
  | querying (query : Nat)
  | done
deriving DecidableEq, Repr

/-- A phase in words. -/
def Phase.describe : Phase → String
  | .notStarted => "not started"
  | .building => "building"
  | .serverStarting => "server starting"
  | .ready => "ready"
  | .querying n => s!"querying ({n})"
  | .done => "done"

/-- The kinds of step. -/
inductive StepKind where
  | build
  | launch
  | await
  | query
deriving DecidableEq, Repr

/-- How a step ended. -/
inductive StepStatus where
  | passed
  | failed
  | skipped
deriving DecidableEq, Repr

/-- A finished step. Times are milliseconds since the run started. -/
structure StepRecord where
  kind : StepKind
  name : String
  status : StepStatus
  startedMs : Nat
  finishedMs : Nat
  exitCode : ExitCode
  detail : Option String
deriving DecidableEq, Repr

/-- Why a run failed, as its report says it. -/
structure FailureRecord where
  kind : FailureKind
  message : String
deriving DecidableEq, Repr

/-- The result of a run. -/
structure RunReport where
  name : String
  passed : Bool
  phase : Phase
  steps : List StepRecord
  serverTerminated : Bool
  failure : Option FailureRecord
  exitCode : Int
  durationMs : Nat
deriving DecidableEq, Repr

/-- The steps of one kind, in order. -/
def RunReport.stepsOf (r : RunReport) (kind : StepKind) : List StepRecord :=
  r.steps.filter fun s => s.kind = kind

end Shakedown
