import Shakedown.Process.Capture
import Shakedown.Process.Ending

/-!
# Invocations

A program that runs to its end while both its output streams are captured. The events of its run
arrive in any order; an invocation is complete once both captures are done and the end of the
process is known, and it times out if its deadline comes before that. `Invocation.conclude` reads
the outcome off a complete run: a fault of the output goes before one of the error stream, and both
go before a lost process.
-/

namespace Shakedown

/-- The two output streams of a program. -/
inductive Stream where
  | stdout
  | stderr
deriving DecidableEq, Repr

/-- The name of a stream. -/
def Stream.name : Stream → String
  | .stdout => "stdout"
  | .stderr => "stderr"

/-- A finished invocation. -/
structure Invocation where
  ending : Ending
  stdout : String
  stderr : String
deriving DecidableEq, Repr

namespace Invocation

/-- What happens while a program runs. -/
inductive Event where
  | output (stream : Stream) (bytes : List UInt8)
  | closed (stream : Stream)
  | exited (ending : Ending)
  | lost (reason : String)
  | deadline
deriving DecidableEq, Repr

/-- How far a run is: both captures, and the end of the process or why it is not known. -/
structure Progress where
  stdout : Capture := {}
  stderr : Capture := {}
  ending : Option (Except String Ending) := none

namespace Progress

/-- Whether there is nothing left to wait for. -/
def isComplete (p : Progress) : Bool := p.stdout.isDone && p.stderr.isDone && p.ending.isSome

/-- The run after an event; the first end of the process counts. -/
def step (p : Progress) : Event → Progress
  | .output .stdout bytes => { p with stdout := p.stdout.feed bytes }
  | .output .stderr bytes => { p with stderr := p.stderr.feed bytes }
  | .closed .stdout => { p with stdout := p.stdout.finish }
  | .closed .stderr => { p with stderr := p.stderr.finish }
  | .exited ending => { p with ending := p.ending.or (some (.ok ending)) }
  | .lost reason => { p with ending := p.ending.or (some (.error reason)) }
  | .deadline => p

end Progress

/-- How waiting for a run ends. -/
inductive Verdict where
  | finished (invocation : Invocation)
  | faulty (reason : String)
  | timedOut
deriving DecidableEq, Repr

/-- The outcome of a complete run. -/
def conclude (p : Progress) : Verdict :=
  match p.stdout.result, p.stderr.result, p.ending with
  -- The faults of the streams go before whatever is known of the process.
  | .error fault, _, _ => .faulty fault.message
  | _, .error fault, _ => .faulty fault.message
  | _, _, some (.error reason) => .faulty reason
  | .ok out, .ok err, some (.ok ending) => .finished ⟨ending, out, err⟩
  | _, _, none => .timedOut

/-- The outcome of a run with the given events to come; events that stop early stop at the
deadline. -/
def follow : Progress → List Event → Verdict
  | p, [] => if p.isComplete then conclude p else .timedOut
  | p, e :: rest =>
    if p.isComplete then conclude p
    -- A run that is complete is not cut off any more, not even by a deadline that has come.
    else if e = .deadline then .timedOut
    else follow (p.step e) rest

/-- The outcome of a run. -/
def ofEvents (events : List Event) : Verdict := follow {} events

/-- Whether the process is still to be killed when waiting ends: its end is not known. -/
def leavesProcess (p : Progress) : Bool :=
  match p.ending with
  | some (.ok _) => false
  | _ => true

/-- How far a run is after the given events. -/
def reached (events : List Event) : Progress := events.foldl Progress.step {}

end Invocation
end Shakedown
