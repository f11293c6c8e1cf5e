import Shakedown.Loading
import Shakedown.Plan.Decode

/-!
# Loading plans
-/

namespace Shakedown.Plan

/-- The plan in the file at a path, for what reading a file gives. -/
def load (read : ReadText) (path : Path) : Except (LoadError ParseError) Plan := loadFile read parse path

end Shakedown.Plan
