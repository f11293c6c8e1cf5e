import Shakedown.Report.Basic
import Shakedown.Json.Printer

/-!
# Reports as JSON

The JSON document of a report: the fields in a fixed order, an absent option left out.
-/

namespace Shakedown

/-- The phase as an object: its name, and the position of a query. -/
def Phase.toJson : Phase → Json
  | .notStarted => .object [("phase", .string "not_started")]
  | .building => .object [("phase", .string "building")]
  | .serverStarting => .object [("phase", .string "server_starting")]
  | .ready => .object [("phase", .string "ready")]
  | .querying n => .object [("phase", .string "querying"), ("query", .nat n)]
  | .done => .object [("phase", .string "done")]

/-- The word for a kind of step. -/
def StepKind.text : StepKind → String
  | .build => "build"
  | .launch => "launch"
  | .await => "await"
  | .query => "query"

/-- The word for how a step ended. -/
def StepStatus.text : StepStatus → String
  | .passed => "passed"
  | .failed => "failed"
  | .skipped => "skipped"

/-- A field that is left out if it has no value. -/
def Json.optionalField (key : String) (value : Option Json) : List (String × Json) :=
  (value.map fun v => (key, v)).toList

/-- A step as an object. -/
def StepRecord.toJson (s : StepRecord) : Json :=
  .object ([("kind", .string s.kind.text), ("name", .string s.name), ("status", .string s.status.text),
    ("started_ms", .nat s.startedMs), ("finished_ms", .nat s.finishedMs)] ++
    Json.optionalField "exit_code" (s.exitCode.map .int) ++
    Json.optionalField "detail" (s.detail.map .string))

/-- A failure as an object. -/
def FailureRecord.toJson (f : FailureRecord) : Json :=
  .object [("kind", .string f.kind.text), ("message", .string f.message)]

/-- A report as an object. -/
def RunReport.toJson (r : RunReport) : Json :=
  .object ([("name", .string r.name), ("passed", .bool r.passed), ("phase", r.phase.toJson),
    ("steps", .array (r.steps.map StepRecord.toJson)), ("server_terminated", .bool r.serverTerminated)] ++
    Json.optionalField "failure" (r.failure.map FailureRecord.toJson) ++
    [("exit_code", .int r.exitCode), ("duration_ms", .nat r.durationMs)])

/-- The text of a report file. -/
def RunReport.text (r : RunReport) : String := r.toJson.pretty

end Shakedown
