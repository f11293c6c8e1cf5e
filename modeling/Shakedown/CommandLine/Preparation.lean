import Shakedown.CommandLine.Request
import Shakedown.CommandLine.Surroundings
import Shakedown.Plan.Builtin
import Shakedown.Plan.Load
import Shakedown.Plan.Root
import Shakedown.Settings.Load

/-!
# What a run needs

Before anything is started the settings are loaded, then the plan, and then the project root is
settled; the first that fails is the failure of the run. Preparing only reads.
-/

namespace Shakedown.CommandLine

/-- What a run needs. -/
structure Preparation where
  settings : Settings
  plan : Plan
  root : Path

variable {σ : Type} (around : Surroundings σ)

/-- The settings of the current user. -/
def loadSettings (s : σ) : Except Failure Settings :=
  (Settings.load (around.doesExist s) (around.read s)
    (Settings.path? (around.variable_ s) (around.accountHome s))).mapError
    (LoadError.toFailure Settings.ParseError.toFailure)

/-- The plan in a file. -/
def loadPlan (path : Path) (s : σ) : Except Failure Plan :=
  (Plan.load (around.read s) path).mapError (LoadError.toFailure Plan.ParseError.toFailure)

/-- The plan that is asked for, or else the built-in one. -/
def choosePlan (path : Option Path) (s : σ) : Except Failure Plan :=
  match path with
  | some path => loadPlan around path s
  | none => Plan.builtin.mapError Plan.ParseError.toFailure

/-- The project root of a run, which is a directory. The current directory is asked for in any case. -/
def chooseRoot (r : RunRequest) (plan : Plan) (s : σ) : Except Failure Path :=
  match around.cwd s with
  | .error reason => .error (.inputOutput reason)
  | .ok cwd =>
    let root := Plan.resolveRoot (around.outside.files s).isFile cwd r.root plan.root r.plan
    if around.isDirectory s root then .ok root
    else .error (.configuration s!"project root '{root.text}' is not a directory")

/-- What a run needs, or why it cannot be begun. -/
def prepare (r : RunRequest) (s : σ) : Except Failure Preparation := do
  let settings ← loadSettings around s
  let plan ← choosePlan around r.plan s
  let root ← chooseRoot around r plan s
  return ⟨settings, plan, root⟩

end Shakedown.CommandLine
