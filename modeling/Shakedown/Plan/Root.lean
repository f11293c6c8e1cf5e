import Shakedown.Plan.Basic
import Shakedown.Path.Project

/-!
# The project root of a run

Given explicitly, else by the plan relative to the plan file's directory, else found above the
current directory, which serves as the last resort.
-/

namespace Shakedown.Plan

/-- The directory against which a plan's root is taken. -/
def baseDir (cwd : Path) (planPath : Option Path) : Path :=
  match planPath.bind Path.parent with
  | some dir => cwd.resolveAgainst dir
  | none => cwd

/-- The project root for a current directory, an explicit root, a plan root and a plan path. -/
def resolveRoot (isFile : Path → Bool) (cwd : Path) (explicit planRoot planPath : Option Path) : Path :=
  match explicit, planRoot with
  | some root, _ => cwd.resolveAgainst root
  | none, some root => (baseDir cwd planPath).resolveAgainst root
  | none, none => (Path.findProjectRoot isFile cwd).getD cwd

end Shakedown.Plan
