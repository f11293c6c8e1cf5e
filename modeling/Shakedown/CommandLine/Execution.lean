import Shakedown.CommandLine.Preparation
import Shakedown.Plan.Summary
import Shakedown.Report.Json
import Shakedown.Session.Run

/-!
# Executing commands

A command ends with an exit code, or with a failure before it has done anything. A report that cannot
be written is a warning and leaves the exit code of the run as it is.
-/

namespace Shakedown.CommandLine

variable {σ : Type} (around : Surroundings σ)

/-- The report of a run is written to a file. -/
def writeReport (path : Path) (report : RunReport) (s : σ) : σ :=
  let told (level : Log.Level) (message : String) (fields : List (String × Log.FieldValue)) (s : σ) : σ :=
    around.outside.log ⟨level, .commandLine, message, ("path", .plain path.text) :: fields⟩ s
  match around.write path report.text s with
  | .ok s => told .info "Wrote run report" [] s
  | .error reason =>
    let words := (Failure.inputOutput reason).message
    let s := told .error "Failed to write run report" [("error", .plain words)] s
    around.printError s!"Warning: could not write report to {path.text}: {words}\n" s

/-- What a user is told of a failure. -/
def complaint (f : Failure) : String := s!"Error: {f.message}\n"

/-- The options of a run whose preparation is made. -/
def runOptions (r : RunRequest) (p : Preparation) (s : σ) : RunOptions where
  root := p.root
  skipBuild := r.skipBuild
  echo := !r.quiet
  colours := around.colours s

/-- A run whose preparation is made: its exit code. -/
def runPrepared (r : RunRequest) (p : Preparation) (s : σ) : Int × σ :=
  let (outcome, session) := runPlan around.outside p.plan (runOptions around r p s) p.settings s
  let s := session.outside
  let s := match r.report with
    | some path => writeReport around path outcome.report s
    | none => s
  let s := match outcome.cause with
    | some f => around.printError (complaint f) s
    | none => s
  (outcome.report.exitCode, s)

/-- A command is executed. -/
def execute (c : Command) (s : σ) : Except Failure Int × σ :=
  match c with
  | .run r =>
    match prepare around r s with
    | .error f => (.error f, s)
    | .ok p =>
      let (code, s) := runPrepared around r p s
      (.ok code, s)
  | .validate path =>
    match loadPlan around path s with
    | .error f => (.error f, s)
    | .ok plan =>
      let colours := around.colours s
      (.ok 0, around.outside.print (plan.summary colours ++ Plan.verdict colours) s)
  | .showPlan => (.ok 0, around.outside.print Plan.builtinText s)

end Shakedown.CommandLine
