import Shakedown.Session.Banner
import Shakedown.Session.Expectation
import Shakedown.Session.Server

/-!
# Running a plan

A session builds the targets, starts the server, awaits its readiness, and runs the queries in
order, one client each. The first step that fails ends it, and so does a request to end the run.
On every way out the server is terminated (`Session.cleanUp`) before the outcome is printed.
-/

namespace Shakedown

/-- What a run needs to know that its plan does not say. -/
structure RunOptions where
  root : Path
  skipBuild : Bool := false
  echo : Bool := false
  colours : Bool := false
deriving DecidableEq, Repr

/-- A finished run: its report, and the failure behind it. -/
structure Outcome where
  report : RunReport
  cause : Option Failure
deriving DecidableEq, Repr

namespace Session

variable {σ : Type} {α : Type} (o : Outside σ)

/-- A step ends with a result. A failure is printed and recorded, and stops the session. -/
def settle (colours : Bool) (step : OpenStep) (result : Except Failure α) (code : α → ExitCode)
    (detail : α → Option String) : Steps σ α := do
  match result with
  | .ok a =>
    finishStep o step .passed (code a) (detail a)
    return a
  | .error f =>
    -- The failure is printed before the step is over, so the time that printing takes is in its record.
    say o (Banner.cross colours f.message)
    finishStep o step .failed f.childCode (some f.message)
    throw (.failed f)

/-- What is logged of a build before its tool is run. -/
def buildEvent (program : Path) (c : BuildCommand) : Log.Event :=
  ⟨.debug, .build, "Running build", [("program", .plain program.text), ("args", .plain (Text.quotedList c.args))]⟩

/-- The result of a build command. -/
def runBuild (root : Path) (c : BuildCommand) : Steps σ (Except Failure Unit) := do
  let view := o.files (← get).outside
  -- A program with a directory part is taken against the root, and any other is looked up on the search path.
  match view.resolveProgram root ⟨c.program⟩ with
  | .error fault => return .error (.buildToolUnavailable c.program fault.message)
  | .ok program =>
    log o (buildEvent program c)
    match ← await o (o.build program c.args root) with
    | .unavailable reason => return .error (.buildToolUnavailable c.program reason)
    | .ended ending =>
      note (σ := σ) (.buildOver ending)
      return if ending.succeeded then .ok () else .error (.build c.display ending.code?)

/-- The build command of a run, if there is something to build. -/
def buildCommand? (plan : Plan) (options : RunOptions) (settings : Settings) : Option BuildCommand :=
  if options.skipBuild then none else BuildCommand.ofPlan? plan settings.buildProgram

/-- The build step. -/
def build (plan : Plan) (options : RunOptions) (settings : Settings) : Steps σ Unit := do
  enter o .building
  match buildCommand? plan options settings with
  | some c =>
    say o (Banner.step options.colours "Building" c.display)
    let step ← startStep o .build c.display
    let result ← runBuild o options.root c
    settle o options.colours step result (fun _ => none) (fun _ => none)
    say o (Banner.check options.colours "Build finished")
  | none =>
    say o (Banner.step options.colours "Building" "nothing to build")
    let step ← startStep o .build "build"
    finishStep o step .skipped none (some "nothing to build")

/-- The server of a plan is started, unless the session has a server already. -/
def startServer (plan : Plan) (options : RunOptions) : Act σ (Except Failure Managed) := do
  -- The slot is looked at before the program is: a session never has two servers.
  if (← get).server.isSome then return .error (.internal "a server is already running")
  let target := plan.server.target
  let view := o.files (← get).outside
  match view.locate options.root plan.build.profile target with
  | .error fault => return .error (.launch target.name fault.message)
  | .ok program =>
    Managed.spawn o target.name
      ⟨program, plan.server.args, plan.server.env, options.root, plan.server.quiet⟩

/-- The launch step. -/
def launch (plan : Plan) (options : RunOptions) : Steps σ Managed := do
  enter o .serverStarting
  let name := plan.server.target.name
  say o (Banner.step options.colours "Starting server" name)
  let step ← startStep o .launch name
  let result ← startServer o plan options
  let server ← settle o options.colours step result (fun _ => none) (fun m => some s!"pid {m.pid}")
  -- From here on the clean-up finds the server, however the session ends.
  modify fun s => { s with server := some server }
  say o (Banner.check options.colours s!"Server started (pid {server.pid})")
  return server

/-- What the await step waits for, in words. -/
def waitingFor (probe : Option Probe) (policy : ReadinessPolicy) : String :=
  let secs := policy.ceiling.wholeSeconds
  match probe with
  | some p => s!"{p.describe} (up to {secs}s)"
  | none => s!"fixed delay of {secs}s"

/-- The server has been seen to end, or has been lost sight of. -/
def serverIsOver (server : Managed) (how : ServerEnd) : Act σ (Except Failure Readiness) := do
  match how with
  | .exited _ => note (.exitObserved server.pid)
  | .lost _ => note (.sightLost server.pid)
  modify fun s => { s with server := some (server.after how) }
  return .error (how.failure server.name)

/-- What the end of a wait with a probe leads to. -/
def probeResult (probe : Probe) (policy : ReadinessPolicy) (e : ProbeEnd) : Act σ (Except Failure Readiness) := do
  let result := e.readiness.judge policy probe.describe
  match e, result with
  | .probed attempts elapsed, _ =>
    log o ⟨.info, .readiness, "Server ready", [("attempts", .nat attempts.toNat),
      ("elapsed_ms", .nat elapsed.wholeMillis), ("probe", .plain probe.describe)]⟩
  | .exhausted attempts, .ok _ =>
    log o ⟨.warn, .readiness, "Readiness ceiling reached without a successful probe, proceeding",
      [("attempts", .nat attempts.toNat), ("ceiling_secs", .nat policy.ceiling.wholeSeconds),
        ("probe", .plain probe.describe)]⟩
  -- The failure itself tells this end.
  | .exhausted _, .error _ => pure ()
  return result

/-- The result of awaiting readiness: with a probe if there is one, else for the whole ceiling. -/
def awaitReadiness (server : Managed) (probe : Option Probe) (root : Path) (policy : ReadinessPolicy) :
    Steps σ (Except Failure Readiness) := do
  match probe with
  | some p =>
    match (← await o (o.awaitProbe server.pid p root policy)).winner with
    | .inl e => probeResult o p policy e
    | .inr how => serverIsOver (σ := σ) server how
  | none =>
    match (← await o (o.awaitDelay server.pid policy.ceiling)).winner with
    | .inl () => return .ok (.delayElapsed policy.ceiling)
    | .inr how => serverIsOver (σ := σ) server how

/-- The result of awaiting the server of the session. A session without one stops there, and records nothing. -/
def awaitLaunched (probe : Option Probe) (root : Path) (policy : ReadinessPolicy) :
    Steps σ (Except Failure Readiness) := do
  match (← get).server with
  | some server => awaitReadiness o server probe root policy
  | none => throw (.failed (.internal "server slot empty after launch"))

/-- The await step. -/
def awaitServer (plan : Plan) (options : RunOptions) (settings : Settings) : Steps σ Unit := do
  let policy := ReadinessPolicy.resolve plan.server.readiness settings
  let probe := plan.server.readiness.probe
  let waiting := waitingFor probe policy
  say o (Banner.step options.colours "Waiting for server" waiting)
  let step ← startStep o .await waiting
  let result ← awaitLaunched o probe options.root policy
  let readiness ← settle o options.colours step result (fun _ => none) (fun r => some r.describe)
  say o (Banner.check options.colours readiness.describe)
  enter o .ready

/-- The time limit of a query. -/
def queryTimeout (plan : Plan) (settings : Settings) (q : QueryStep) : Nat :=
  (q.timeoutSecs.or plan.client.timeoutSecs).getD settings.invocationSecs

/-- The arguments of the client for a query. -/
def clientArgs (plan : Plan) (q : QueryStep) : List String := plan.client.args ++ q.args ++ [q.query]

/-- A client whose run is over with the given events is let go of: it is killed unless its end was seen. -/
def letGoOfClient (pid : Nat) (events : List Invocation.Event) : Act σ Unit :=
  if Invocation.leavesProcess (Invocation.reached events) then tell (o.dropClient pid) else pure ()

/-- A client that is still followed is let go of. -/
def abandonClient (pid : Nat) : Act σ Unit := do
  note (.clientOver none)
  tell (o.dropClient pid)

/-- A started client is followed to its end. One that is past its deadline is killed, and its end awaited; a request
to end the run may come before that end, when the client has been killed already. -/
def followClient (name : String) (pid : Nat) (timeout : Nanos) (echo : Bool) (begun : Nanos) :
    Steps σ (Except Failure (Invocation × Nanos)) := do
  let events ← awaitOr o (abandonClient o pid) (o.awaitClient pid timeout echo)
  match Invocation.ofEvents events with
  | .timedOut =>
    log o ⟨.warn, .client, "Invocation timed out, killing", [("name", .quoted name)]⟩
    -- The client is over once it has been waited for, or once a request has come before that.
    let _ ← awaitOr o (note (.clientOver none)) (o.killClient pid)
    note (σ := σ) (.clientOver (some events))
    return .error (.invocationTimeout name timeout.wholeSeconds)
  | .faulty reason =>
    letGoOfClient o pid events
    note (σ := σ) (.clientOver (some events))
    return .error (.inputOutput reason)
  | .finished invocation =>
    note (σ := σ) (.clientOver (some events))
    let elapsed := o.now (← get).outside - begun
    let code := match invocation.ending.code? with
      | some c => s!"Some({c})"
      | none => "None"
    log o ⟨.debug, .client, "Invocation finished", [("name", .quoted name), ("code", .plain code),
      ("elapsed_ms", .nat elapsed.wholeMillis)]⟩
    return .ok (invocation, elapsed)

/-- A client is run to its end. One without the pipe of a stream is let go of at once. -/
def invoke (name : String) (request : ClientRequest) (timeout : Nanos) (echo : Bool) :
    Steps σ (Except Failure (Invocation × Nanos)) := do
  let begun := o.now (← get).outside
  let started ← (ask (o.startClient request) : Act σ (Except String Nat))
  match started with
  | .error reason => return .error (.invocationSpawn name s!"{request.program}: {reason}")
  | .ok pid =>
    note (σ := σ) (.clientStarted request timeout)
    log o ⟨.debug, .client, "Invocation started", [("name", .quoted name), ("pid", .pid pid)]⟩
    let world := (← get).outside
    -- The output is asked for before the error stream.
    match [Stream.stdout, .stderr].find? fun stream => !o.piped pid stream world with
    | some stream =>
      abandonClient o pid
      return .error (.internal s!"Failed to get client {stream.name}")
    | none => followClient o name pid timeout echo begun

/-- The result of a query: its client is located, run, and held against the expectation. -/
def runQuery (plan : Plan) (options : RunOptions) (settings : Settings) (q : QueryStep) (name : String) :
    Steps σ (Except Failure (Invocation × Nanos)) := do
  let view := o.files (← get).outside
  match view.locate options.root plan.build.profile plan.client.target with
  | .error fault => return .error (.invocationSpawn name fault.message)
  | .ok program =>
    let request := ⟨program, clientArgs plan q, plan.client.env, options.root⟩
    match ← invoke o name request (seconds (queryTimeout plan settings q)) options.echo with
    | .error f => return .error f
    -- What the client did counts only if the expectation of the query is met.
    | .ok run => return (run.1.check name q.expect).map fun _ => run

/-- The step of the query at a position counted from zero. -/
def query (plan : Plan) (options : RunOptions) (settings : Settings) (index : Nat) (q : QueryStep) :
    Steps σ Unit := do
  enter o (.querying (index + 1))
  let name := q.displayName index
  say o (Banner.step options.colours s!"Query {index + 1}/{plan.queries.length}" name)
  say o (Banner.query options.colours q.query)
  let step ← startStep o .query name
  let result ← runQuery o plan options settings q name
  -- A query that passes has the exit code of its client, which need not be zero.
  let run ← settle o options.colours step result (fun r => r.1.ending.code?) (fun _ => none)
  say o (Banner.check options.colours s!"{name} ({run.2.wholeMillis} ms)")

/-- The steps of the queries from a position on. -/
def queries (plan : Plan) (options : RunOptions) (settings : Settings) : Nat → List QueryStep → Steps σ Unit
  | _, [] => pure ()
  | index, q :: rest => do
    query o plan options settings index q
    queries plan options settings (index + 1) rest

/-- All steps in order. -/
def steps (plan : Plan) (options : RunOptions) (settings : Settings) : Steps σ Unit := do
  build o plan options settings
  let _ ← launch o plan options
  awaitServer o plan options settings
  queries o plan options settings 0 plan.queries

/-- The steps against the watch for requests to end the run. -/
def drive (plan : Plan) (options : RunOptions) (settings : Settings) : Steps σ Unit := do
  let start ← (ask o.start : Act σ Start)
  match start with
  | .stepsFirst => steps o plan options settings
  | .watchFirst pending =>
    -- The watch is looked at first, and begins before any step does.
    watch o
    match pending with
    | some i => interrupt i
    | none => steps o plan options settings

/-- The server, if one was started, is terminated; whether it was still running then. -/
def cleanUp (options : RunOptions) (grace : Nanos) : Act σ Bool := do
  match (← get).server with
  | none =>
    log o ⟨.debug, .session, "No server launched, nothing to clean up", []⟩
    return false
  | some server =>
    -- The server leaves its slot, so that it is let go of here and nowhere else.
    modify fun s => { s with server := none }
    let (live, server) ← server.isLive o
    if live then
      say o (Banner.step options.colours "Stopping server" s!"{server.name} (pid {server.pid})")
    let (stopped, server) ← server.terminate o grace
    server.drop o
    return stopped

/-- The outcome is announced. -/
def announce (options : RunOptions) (cause : Option Failure) : Act σ Unit := do
  match cause with
  | none =>
    enter o .done
    say o (Banner.passed options.colours)
  | some f =>
    -- A failure leaves the phase as it was when the steps stopped.
    let phase := (← get).recorder.phase.describe
    say o (Banner.failed options.colours phase)
    log o ⟨.error, .session, f.message, [("kind", .quoted f.kind.text), ("phase", .plain phase)]⟩

/-- The failure that a stop is; a request to end the run is announced when it comes. -/
def causeOf (options : RunOptions) (result : Except Stop Unit) : Act σ (Option Failure) := do
  match result with
  | .ok () => return none
  | .error (.failed f) => return some f
  | .error (.interrupted i) =>
    say o (Banner.interrupted options.colours i.signalName)
    return some (.interrupted i)

/-- A whole session. -/
def session (plan : Plan) (options : RunOptions) (settings : Settings) : Act σ Outcome := do
  say o (Banner.opening options.colours plan)
  match plan.description with
  | some text => say o (Banner.description options.colours text)
  | none => pure ()
  log o ⟨.debug, .session, "Project root", [("root", .plain options.root.text)]⟩
  let result ← (drive o plan options settings).run
  -- A request is announced before the server is stopped, and the outcome after that.
  let cause ← causeOf o options result
  let terminated ← cleanUp o options (millis settings.shutdownGraceMs)
  announce o options cause
  let duration ← offsetMs o
  return ⟨(← get).recorder.toReport plan.name cause terminated duration, cause⟩

end Session

/-- A plan is run from a state of the world outside. -/
def runPlan {σ : Type} (o : Outside σ) (plan : Plan) (options : RunOptions) (settings : Settings) (s : σ) :
    Outcome × Session.State σ :=
  (Session.session o plan options settings).run (Session.State.start o s)

end Shakedown
