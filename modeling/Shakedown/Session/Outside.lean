import Shakedown.Build.Artifact
import Shakedown.Build.Command
import Shakedown.Log.Basic
import Shakedown.Process.Invocation
import Shakedown.Readiness.Race

/-!
# The world outside a session

What a session asks of the system around it, as operations on a state of that system. An operation that
is awaited is an `Operation`: it may be over at the first look, and only if it is not does the session
wait for it, which a request to end the run can cut short. Nothing is assumed of the answers;
`Outside.Monotone` says that no operation turns the clock back.
-/

namespace Shakedown

/-- How waiting for an operation ends: with its result, or with a request to end the run that came first. -/
inductive Awaited (α : Type) where
  | done (result : α)
  | interrupted (by_ : Interrupt)
deriving Repr

/-- What the first look at an awaited operation finds: its result, or it goes on, and waiting for it changes the
state of the world. -/
inductive FirstLook (σ α : Type) where
  | ready (result : α)
  | goesOn (rest : σ → Awaited α × σ)

/-- An operation that is awaited. -/
abbrev Operation (σ α : Type) := σ → FirstLook σ α × σ

namespace Operation

variable {σ α β : Type}

/-- An operation that is not over at the first look. -/
def waiting (rest : σ → Awaited α × σ) : Operation σ α := fun s => (.goesOn rest, s)

/-- An operation and all of its wait. -/
def complete (op : Operation σ α) (s : σ) : Awaited α × σ :=
  match op s with
  | (.ready a, s) => (.done a, s)
  | (.goesOn rest, s) => rest s

/-- An operation, and after it one that depends on its result. Both are one wait. -/
def andThen (op : Operation σ α) (next : α → Operation σ β) : Operation σ β := fun s =>
  match op s with
  | (.ready a, s) => next a s
  | (.goesOn rest, s) =>
    (.goesOn fun s =>
      match rest s with
      | (.done a, s) => (next a).complete s
      | (.interrupted i, s) => (.interrupted i, s), s)

/-- The operation comes to a result: at the first look, or after a wait. -/
def Yields (op : Operation σ α) (a : α) : Prop :=
  ∃ v, (op v).1 = .ready a ∨ ∃ rest w, (op v).1 = .goesOn rest ∧ (rest w).1 = .done a

/-- The wait for the operation is cut short by a request to end the run. -/
def Stops (op : Operation σ α) (i : Interrupt) : Prop :=
  ∃ v rest w, (op v).1 = .goesOn rest ∧ (rest w).1 = .interrupted i

end Operation

/-- The other request to end the run. -/
def Interrupt.other : Interrupt → Interrupt
  | .ctrlC => .terminate
  | .terminate => .ctrlC

/-- What the handler for a request is called. -/
def Interrupt.handlerName : Interrupt → String
  | .ctrlC => "Ctrl-C"
  | .terminate => "SIGTERM"

/-- How the handlers for requests to end the run are installed: which of them is tried first, why one cannot be
installed, and whether the first is called before the other is tried. -/
structure Installation where
  first : Interrupt
  refused : Interrupt → Option String
  atOnce : Bool

namespace Installation

/-- The handlers that are tried. One that is called at once leaves the other aside. -/
def tried (x : Installation) : List Interrupt :=
  if x.atOnce && (x.refused x.first).isNone then [x.first] else [x.first, x.first.other]

/-- The requests whose handlers are installed. -/
def heeded (x : Installation) : List Interrupt := x.tried.filter fun i => (x.refused i).isNone

/-- What is logged of the handlers that cannot be installed. -/
def faults (x : Installation) : List Log.Event :=
  x.tried.filterMap fun i => (x.refused i).map fun reason =>
    ⟨.warn, .signals, s!"Failed to install {i.handlerName} handler", [("error", .plain reason)]⟩

end Installation

/-- A program to start in the background. -/
structure SpawnRequest where
  program : Path
  args : List String
  env : Environment
  cwd : Path
  quiet : Bool
deriving DecidableEq, Repr

/-- A client to run. -/
structure ClientRequest where
  program : Path
  args : List String
  env : Environment
  cwd : Path
deriving DecidableEq, Repr

/-- How a build tool that was found ended. -/
inductive BuildEnd where
  | unavailable (reason : String)
  | ended (ending : Ending)
deriving DecidableEq, Repr

/-- What is seen of a server at once: it runs, it has ended, or it cannot be told. -/
inductive ServerView where
  | running
  | ended (ending : Ending)
  | unknown (reason : String)
deriving DecidableEq, Repr

/-- How the grace period of a server ends. -/
inductive GraceEnd where
  | ended (ending : Ending)
  | unknown (reason : String)
  | expired
deriving DecidableEq, Repr

/-- The signals that a session sends to a server's process group. -/
inductive GroupSignal where
  | terminate
  | kill
deriving DecidableEq, Repr

/-- Who is looked at first when a session starts: the watch for requests to end it, of which one
may be there already, or the steps of the session. -/
inductive Start where
  | watchFirst (pending : Option Interrupt)
  | stepsFirst
deriving DecidableEq, Repr

/-- The operations that a session needs. Servers and clients are named by their process numbers. A client is
started with a pipe for each of its streams, and `piped` says whether the pipe can be had from it afterwards.
`killClient` kills a client and awaits its end, or says why it cannot; `dropClient` kills it and awaits nothing.
`killLeader` kills the leader of a server's process group and nothing else, or says why it cannot. Printing is taken to
succeed: that a stream can be closed or full, at which the program panics, is left out. -/
structure Outside (σ : Type) where
  now : σ → Nanos
  files : σ → FileView
  start : σ → Start × σ
  install : σ → Installation × σ
  print : String → σ → σ
  log : Log.Event → σ → σ
  build : Path → List String → Path → Operation σ BuildEnd
  spawn : SpawnRequest → σ → Except String Nat × σ
  awaitProbe : Nat → Probe → Path → ReadinessPolicy → Operation σ (Race ProbeEnd)
  awaitDelay : Nat → Nanos → Operation σ (Race Unit)
  startClient : ClientRequest → σ → Except String Nat × σ
  piped : Nat → Stream → σ → Bool := fun _ _ _ => true
  awaitClient : Nat → Nanos → Bool → Operation σ (List Invocation.Event)
  killClient : Nat → Operation σ (Option String) := fun _ s => (.ready none, s)
  dropClient : Nat → σ → σ := fun _ s => s
  viewServer : Nat → σ → ServerView × σ
  awaitServer : Nat → σ → ServerEnd × σ
  awaitGrace : Nat → Nanos → σ → GraceEnd × σ
  signalGroup : Nat → GroupSignal → σ → σ
  killLeader : Nat → σ → Option String × σ

/-- The clock is not turned back by an operation, at its first look and while it is awaited. -/
structure Operation.Advances {σ α : Type} (now : σ → Nanos) (op : Operation σ α) : Prop where
  look (s : σ) : now s ≤ now (op s).2
  rest (s : σ) : ∀ rest, (op s).1 = .goesOn rest → ∀ t, now t ≤ now (rest t).2

namespace Outside

variable {σ : Type}

/-- A request to end the run is given: it is there when the session is started, or it cuts short the wait for one of
the operations. -/
inductive Requests (o : Outside σ) (i : Interrupt) : Prop
  | start (v : σ) (answer : (o.start v).1 = .watchFirst (some i))
  | build (program : Path) (args : List String) (root : Path) (stops : (o.build program args root).Stops i)
  | probe (server : Nat) (probe : Probe) (root : Path) (policy : ReadinessPolicy)
      (stops : (o.awaitProbe server probe root policy).Stops i)
  | delay (server : Nat) (delay : Nanos) (stops : (o.awaitDelay server delay).Stops i)
  | client (pid : Nat) (timeout : Nanos) (echo : Bool) (stops : (o.awaitClient pid timeout echo).Stops i)
  | kill (pid : Nat) (stops : (o.killClient pid).Stops i)

/-- No operation turns the clock back. -/
structure Monotone (o : Outside σ) : Prop where
  start (s : σ) : o.now s ≤ o.now (o.start s).2
  install (s : σ) : o.now s ≤ o.now (o.install s).2
  print (text : String) (s : σ) : o.now s ≤ o.now (o.print text s)
  log (e : Log.Event) (s : σ) : o.now s ≤ o.now (o.log e s)
  build (p : Path) (args : List String) (root : Path) : (o.build p args root).Advances o.now
  spawn (r : SpawnRequest) (s : σ) : o.now s ≤ o.now (o.spawn r s).2
  awaitProbe (n : Nat) (p : Probe) (root : Path) (policy : ReadinessPolicy) :
    (o.awaitProbe n p root policy).Advances o.now
  awaitDelay (n : Nat) (d : Nanos) : (o.awaitDelay n d).Advances o.now
  startClient (r : ClientRequest) (s : σ) : o.now s ≤ o.now (o.startClient r s).2
  awaitClient (n : Nat) (d : Nanos) (echo : Bool) : (o.awaitClient n d echo).Advances o.now
  killClient (n : Nat) : (o.killClient n).Advances o.now
  dropClient (n : Nat) (s : σ) : o.now s ≤ o.now (o.dropClient n s)
  viewServer (n : Nat) (s : σ) : o.now s ≤ o.now (o.viewServer n s).2
  awaitServer (n : Nat) (s : σ) : o.now s ≤ o.now (o.awaitServer n s).2
  awaitGrace (n : Nat) (d : Nanos) (s : σ) : o.now s ≤ o.now (o.awaitGrace n d s).2
  signalGroup (n : Nat) (g : GroupSignal) (s : σ) : o.now s ≤ o.now (o.signalGroup n g s)
  killLeader (n : Nat) (s : σ) : o.now s ≤ o.now (o.killLeader n s).2

end Outside
end Shakedown
