import Shakedown.Failure
import Shakedown.Path.Basic

/-!
# Loading from files

A file is read and what it says is parsed; `LoadError` says which of the two failed.
-/

namespace Shakedown

/-- What reading the text of a file gives: the text, or why there is none. -/
abbrev ReadText := Path → Except String String

/-- Why nothing can be loaded from a file. -/
inductive LoadError (ε : Type) where
  | unreadable (path : Path) (reason : String)
  | invalid (e : ε)
deriving DecidableEq, Repr

/-- Why nothing can be loaded, as a failure of a run. -/
def LoadError.toFailure {ε : Type} (invalid : ε → Failure) : LoadError ε → Failure
  | .unreadable path reason => .fileRead path.text reason
  | .invalid e => invalid e

/-- What the file at a path says. -/
def loadFile {ε α : Type} (read : ReadText) (parse : String → Except ε α) (path : Path) :
    Except (LoadError ε) α :=
  match read path with
  | .error reason => .error (.unreadable path reason)
  | .ok text => (parse text).mapError .invalid

end Shakedown
