import Shakedown.Plan.Basic
import Shakedown.Settings.Basic

/-!
# Readiness policies

The timing of a readiness wait: the plan's values, and the settings' where the plan has none.
Durations are nanoseconds.
-/

namespace Shakedown

/-- Nanoseconds. -/
abbrev Nanos := Nat

/-- A number of milliseconds. -/
def millis (n : Nat) : Nanos := n * 1000000

/-- A number of seconds. -/
def seconds (n : Nat) : Nanos := n * 1000000000

/-- The whole milliseconds of a duration. -/
def Nanos.wholeMillis (d : Nanos) : Nat := d / 1000000

/-- The whole seconds of a duration. -/
def Nanos.wholeSeconds (d : Nanos) : Nat := d / 1000000000

/-- Timing of a readiness wait. -/
structure ReadinessPolicy where
  ceiling : Nanos
  initialInterval : Nanos
  maxInterval : Nanos
  onTimeout : OnTimeout
deriving DecidableEq, Repr

/-- The policy of a plan's readiness section under the settings. -/
def ReadinessPolicy.resolve (plan : ReadinessSection) (settings : Settings) : ReadinessPolicy where
  ceiling := seconds (plan.ceilingSecs.getD settings.readinessCeilingSecs)
  initialInterval := millis (plan.initialIntervalMs.getD settings.initialIntervalMs)
  maxInterval := millis (plan.maxIntervalMs.getD settings.maxIntervalMs)
  onTimeout := plan.onTimeout

/-- The state of an exponential backoff: the next delay, the cap that doubling stops at, and the
elapsed time that no delay may pass. -/
structure Backoff where
  current : Nanos
  cap : Nanos
  limit : Nanos
deriving DecidableEq, Repr

/-- The backoff of a policy; the cap is never below the first delay. -/
def ReadinessPolicy.backoff (p : ReadinessPolicy) : Backoff :=
  ⟨p.initialInterval, max p.maxInterval p.initialInterval, p.ceiling⟩

namespace Backoff

/-- The delay after the current one: its double, or the cap once that would be reached. -/
def grow (b : Backoff) : Backoff :=
  { b with current := if b.cap ≤ 2 * b.current then b.cap else 2 * b.current }

/-- The next delay at an elapsed time, none if it would end past the limit, and the backoff after
it. Past the limit the backoff stays as it is. -/
def next (b : Backoff) (elapsed : Nanos) : Option Nanos × Backoff :=
  if b.limit < elapsed then (none, b)
  -- The delay grows for the next time even where it is not given.
  else (if elapsed + b.current ≤ b.limit then some b.current else none, b.grow)

end Backoff
end Shakedown
