import Shakedown.Failure
import Shakedown.Process.Signal

/-!
# How processes end
-/

namespace Shakedown

/-- How a process ended: with an exit code, or by a signal. -/
inductive Ending where
  | exited (code : Int)
  | signalled (signal : Nat)
deriving DecidableEq, Repr

namespace Ending

/-- The exit code, if there is one. -/
def code? : Ending → ExitCode
  | .exited code => some code
  | .signalled _ => none

/-- Whether the process succeeded: it ended with exit code zero. -/
def succeeded : Ending → Bool
  | .exited code => code == 0
  | .signalled _ => false

/-- How the process ended, in words. -/
def describe : Ending → String
  | .exited code => s!"exit status: {code}"
  | .signalled n =>
    match Signal.ofNumber? n with
    | some s => s!"signal: {n} (SIG{s.name})"
    | none => s!"signal: {n}"

end Ending
end Shakedown
