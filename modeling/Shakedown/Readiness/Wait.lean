import Shakedown.Readiness.Policy
import Shakedown.Failure

/-!
# Waiting for readiness

The readiness wait as a machine: it asks for one probe attempt at a time and for one delay at a
time, and is told the elapsed time with each answer. An attempt that exceeds its slot counts as
failed. Attempts are counted in 32 bits, and the count starts again from zero after the last number.
`Wait.runIdeal` runs the machine against a probe whose attempts last a given time, on a clock that
advances by exactly what attempts and delays take.
-/

namespace Shakedown

/-- The longest slot of an attempt. -/
def longestAttempt : Nanos := seconds 1

/-- The shortest slot of an attempt, given to one that starts at the ceiling. -/
def shortestAttempt : Nanos := millis 10

/-- The slot of an attempt with a given time left to the ceiling. -/
def attemptSlot (remaining : Nanos) : Nanos := min (max remaining shortestAttempt) longestAttempt

/-- How a readiness wait ends. -/
inductive Readiness where
  | probed (attempts : UInt32) (elapsed : Nanos)
  | delayElapsed (delay : Nanos)
  | ceilingReached (attempts : UInt32)
deriving DecidableEq, Repr

/-- What the wait asks for: an attempt within a slot, a delay, or nothing more. -/
inductive Wait.Request where
  | attempt (number : UInt32) (slot : Nanos)
  | sleep (delay : Nanos)
  | probed (attempts : UInt32) (elapsed : Nanos)
  | exhausted (attempts : UInt32)
deriving DecidableEq, Repr

/-- State of the wait: the count of the attempts made so far, the backoff, and the pending request. -/
structure Wait where
  attempts : UInt32
  backoff : Backoff
  request : Wait.Request
deriving DecidableEq, Repr

namespace Wait

/-- The wait asks for its next attempt, at an elapsed time. -/
def ask (p : ReadinessPolicy) (attempts : UInt32) (b : Backoff) (elapsed : Nanos) : Wait :=
  ⟨attempts + 1, b, .attempt (attempts + 1) (attemptSlot (p.ceiling - elapsed))⟩

/-- The wait at its start. -/
def start (p : ReadinessPolicy) : Wait := ask p 0 p.backoff 0

/-- The pending attempt or delay is over: whether the attempt succeeded within its slot, and the
elapsed time. -/
def answer (p : ReadinessPolicy) (w : Wait) (succeeded : Bool) (elapsed : Nanos) : Wait :=
  match w.request with
  | .attempt .. =>
    if succeeded then { w with request := .probed w.attempts elapsed }
    else
      let remaining := p.ceiling - elapsed
      -- The attempt at the ceiling is the last one.
      if remaining = 0 then { w with request := .exhausted w.attempts }
      else
        let (delay, b) := w.backoff.next elapsed
        -- A backoff that gives no delay any more leaves the time to the ceiling as the last one.
        { w with backoff := b, request := .sleep (min (delay.getD remaining) remaining) }
  | .sleep _ => ask p w.attempts w.backoff elapsed
  | .probed .. | .exhausted _ => w

/-- How a wait that asks for nothing more ended. -/
def outcome? (w : Wait) : Option Readiness :=
  match w.request with
  | .probed n elapsed => some (.probed n elapsed)
  | .exhausted n => some (.ceilingReached n)
  | _ => none

/-- A probe on an ideal clock: the time that an attempt takes, by its number counted from one and the
time at which it is made, and whether it then succeeds. -/
structure IdealProbe where
  duration : Nat → Nanos → Nanos
  succeeds : Nat → Nanos → Bool

/-- A run on an ideal clock: the wait, the clock, and the start times of the attempts, last first. -/
structure IdealRun where
  wait : Wait
  clock : Nanos
  starts : List Nanos
deriving DecidableEq, Repr

/-- One request of a run is met. The policy sees the elapsed time that `seen` makes of the clock. -/
def IdealRun.step (p : ReadinessPolicy) (probe : IdealProbe) (seen : Nanos → Nanos) (r : IdealRun) :
    IdealRun :=
  match r.wait.request with
  | .attempt _ slot =>
    let n := r.starts.length + 1
    let takes := probe.duration n r.clock
    let clock := r.clock + min takes slot
    let ok := decide (takes ≤ slot) && probe.succeeds n r.clock
    ⟨r.wait.answer p ok (seen clock), clock, r.clock :: r.starts⟩
  | .sleep delay =>
    let clock := r.clock + delay
    ⟨r.wait.answer p false (seen clock), clock, r.starts⟩
  | _ => r

/-- A run of at most `fuel` requests. -/
def runIdeal (p : ReadinessPolicy) (probe : IdealProbe) (seen : Nanos → Nanos) : Nat → IdealRun → IdealRun
  | 0, r => r
  | fuel + 1, r =>
    match r.wait.outcome? with
    | some _ => r
    | none => runIdeal p probe seen fuel (r.step p probe seen)

/-- The run that has not begun. -/
def IdealRun.start (p : ReadinessPolicy) : IdealRun := ⟨Wait.start p, 0, []⟩

end Wait

/-- What a readiness wait leads to under a policy: a ceiling without success is a failure if the
policy says so. -/
def Readiness.judge (p : ReadinessPolicy) (describe : String) : Readiness → Except Failure Readiness
  | .ceilingReached n =>
    match p.onTimeout with
    | .proceed => .ok (.ceilingReached n)
    | .fail => .error (.readinessTimeout p.ceiling.wholeSeconds describe)
  | r => .ok r

/-- The end of a readiness wait in words. -/
def Readiness.describe : Readiness → String
  | .probed attempts elapsed =>
    let plural := if attempts = 1 then "" else "s"
    s!"Server ready after {elapsed.wholeMillis} ms ({attempts} probe{plural})"
  | .delayElapsed delay => s!"Waited {delay.wholeSeconds}s for server start"
  | .ceilingReached attempts => s!"Server did not answer {attempts} probes, continuing anyway"

end Shakedown
