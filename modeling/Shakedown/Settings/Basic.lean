import Shakedown.Text.Blank

/-!
# Settings

The six settings of the runner, their defaults, and the conditions on a loaded set of them.
-/

namespace Shakedown

/-- Settings of the runner. -/
structure Settings where
  buildProgram : String := "cargo"
  readinessCeilingSecs : Nat := 3
  invocationSecs : Nat := 60
  shutdownGraceMs : Nat := 2000
  initialIntervalMs : Nat := 50
  maxIntervalMs : Nat := 500
deriving DecidableEq, Repr

/-- The settings that must not be zero. -/
inductive Settings.Positive where
  | readinessCeiling
  | invocation
  | initialInterval
  | maxInterval
deriving DecidableEq, Repr

/-- The name of such a setting in a settings file. -/
def Settings.Positive.key : Settings.Positive → String
  | .readinessCeiling => "timeouts.readiness_ceiling_secs"
  | .invocation => "timeouts.invocation_secs"
  | .initialInterval => "readiness.initial_interval_ms"
  | .maxInterval => "readiness.max_interval_ms"

/-- The value of such a setting. -/
def Settings.Positive.value (s : Settings) : Settings.Positive → Nat
  | .readinessCeiling => s.readinessCeilingSecs
  | .invocation => s.invocationSecs
  | .initialInterval => s.initialIntervalMs
  | .maxInterval => s.maxIntervalMs

/-- A violated condition. -/
inductive Settings.Fault where
  | zero (setting : Settings.Positive)
  | blankBuildProgram
deriving DecidableEq, Repr

/-- A violated condition in words. -/
def Settings.Fault.message : Settings.Fault → String
  | .zero setting => s!"{setting.key} must be positive"
  | .blankBuildProgram => "build.program must not be empty"

/-- All conditions, in order. -/
def Settings.validate (s : Settings) : Except Settings.Fault Unit :=
  match [Settings.Positive.readinessCeiling, .invocation, .initialInterval, .maxInterval].find? fun p =>
      p.value s = 0 with
  | some p => .error (.zero p)
  | none => if Text.allBlank s.buildProgram then .error .blankBuildProgram else .ok ()

end Shakedown
