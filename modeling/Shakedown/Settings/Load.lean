import Shakedown.Loading
import Shakedown.Settings.Decode
import Shakedown.Settings.Location

/-!
# Loading settings

Settings come from their file if it exists, and are the defaults otherwise.
-/

namespace Shakedown.Settings

/-- The settings of a path, if there is one, for what exists and what reading a file gives. -/
def load (doesExist : Path → Bool) (read : ReadText) (path : Option Path) :
    Except (LoadError ParseError) Settings :=
  match path.filter doesExist with
  | none => .ok {}
  | some path => loadFile read parse path

end Shakedown.Settings
