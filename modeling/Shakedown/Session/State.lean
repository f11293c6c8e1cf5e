import Shakedown.Report.Recorder
import Shakedown.Session.Outside

/-!
# The state of a session

A session carries the state of the world outside, its recorder, the server it has started, whether
requests to end it are watched for, and a journal of what it did. `Act` is an action of a session;
`Steps` is one that a failure or a request to end the run stops.
-/

namespace Shakedown

/-- The server of a session: its name, its process number, whether it is taken to run, and whether its process is
killed when it is let go of. -/
structure Managed where
  name : String
  pid : Nat
  live : Bool
  held : Bool := true
deriving DecidableEq, Repr

namespace Session

/-- What a session does, as its journal tells it. Of the watch for requests to end the run it tells which are heeded
from then on, and of a request that it has ended the steps; of a client that is over, what was seen of it, unless it was
let go of before; of a build tool, how it ended; of a server that is no longer taken to run, whether its exit was seen
or nothing could be seen of it. -/
inductive Event where
  | watching (heeded : List Interrupt)
  | interrupted (by_ : Interrupt)
  | entered (phase : Phase)
  | recorded (step : StepRecord)
  | buildOver (ending : Ending)
  | printed (text : String)
  | spawned (server : Nat)
  | clientStarted (request : ClientRequest) (timeout : Nanos)
  | clientOver (seen : Option (List Invocation.Event))
  | terminating (server : Nat)
  | checked (server : Nat) (live : Bool)
  | signalled (server : Nat) (signal : GroupSignal)
  | leaderKilled (server : Nat)
  | exitObserved (server : Nat)
  | sightLost (server : Nat)
  | guardDropped (server : Nat) (live : Bool)
deriving DecidableEq, Repr

/-- The state of a session. -/
structure State (σ : Type) where
  outside : σ
  startedAt : Nanos
  recorder : Recorder := .new
  server : Option Managed := none
  watching : Bool := false
  journal : List Event := []

/-- An action of a session. -/
abbrev Act (σ : Type) := StateM (State σ)

/-- Why the steps of a session stop early. -/
inductive Stop where
  | failed (failure : Failure)
  | interrupted (by_ : Interrupt)
deriving DecidableEq, Repr

/-- Actions that may stop the session. -/
abbrev Steps (σ : Type) := ExceptT Stop (Act σ)

variable {σ : Type} {α : Type}

/-- The session before its first action. -/
def State.start (o : Outside σ) (s : σ) : State σ := { outside := s, startedAt := o.now s }

/-- An event is put into the journal. -/
def note (e : Event) : Act σ Unit := modify fun s => { s with journal := s.journal ++ [e] }

/-- An operation on the world outside. -/
def ask (f : σ → α × σ) : Act σ α := fun s =>
  let r := f s.outside
  (r.1, { s with outside := r.2 })

/-- A change of the world outside. -/
def tell (f : σ → σ) : Act σ Unit := modify fun s => { s with outside := f s.outside }

/-- A text is printed. -/
def say (o : Outside σ) (text : String) : Act σ Unit := do
  note (.printed text)
  tell (o.print text)

/-- An event is logged. -/
def log (o : Outside σ) (e : Log.Event) : Act σ Unit := tell (o.log e)

/-- The milliseconds since the session started. -/
def offsetMs (o : Outside σ) : Act σ Nat := do
  let s ← get
  return Nanos.wholeMillis (o.now s.outside - s.startedAt)

/-- The session enters a phase. -/
def enter (o : Outside σ) (phase : Phase) : Act σ Unit := do
  let before := (← get).recorder.phase
  log o ⟨.debug, .recorder, "Phase transition", [("from", .plain before.describe), ("to", .plain phase.describe)]⟩
  note (.entered phase)
  modify fun s => { s with recorder := s.recorder.enter phase }

/-- A step starts. -/
def startStep (o : Outside σ) (kind : StepKind) (name : String) : Act σ OpenStep := do
  return ⟨kind, name, ← offsetMs o⟩

/-- A step ends and is recorded. -/
def finishStep (o : Outside σ) (step : OpenStep) (status : StepStatus) (code : ExitCode)
    (detail : Option String) : Act σ Unit := do
  let finished ← offsetMs o
  note (.recorded (step.close finished status code detail))
  modify fun s => { s with recorder := s.recorder.finish step finished status code detail }

/-- Requests to end the run are watched for from now on, as far as their handlers can be installed. -/
def watch (o : Outside σ) : Act σ Unit := do
  if !(← get).watching then
    let handlers ← ask o.install
    -- A handler that cannot be installed is only told of, and the watch goes on without it.
    tell fun w => handlers.faults.foldl (fun w e => o.log e w) w
    note (.watching handlers.heeded)
    modify fun s => { s with watching := true }

/-- A request to end the run stops the steps. -/
def interrupt (i : Interrupt) : Steps σ α := do
  note (σ := σ) (.interrupted i)
  throw (.interrupted i)

/-- An operation is waited for, unless it is over at the first look. While the session waits, requests to end the run
are watched for. -/
def waitFor (o : Outside σ) (op : Operation σ α) : Act σ (Awaited α) := do
  match ← ask op with
  | .ready a => return .done a
  | .goesOn rest =>
    -- Now the other side of the race is looked at: the watch begins, unless it had begun.
    watch o
    ask rest

/-- An operation is awaited. If a request cuts the wait short, `letGo` is done before it stops the steps. -/
def awaitOr (o : Outside σ) (letGo : Act σ Unit) (op : Operation σ α) : Steps σ α := do
  match ← (waitFor o op : Act σ (Awaited α)) with
  | .done a => return a
  | .interrupted i =>
    letGo
    interrupt i

/-- An operation is awaited, and nothing is left behind if a request ends the run. -/
def await (o : Outside σ) (op : Operation σ α) : Steps σ α := awaitOr o (pure ()) op

end Session
end Shakedown
