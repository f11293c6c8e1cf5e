import Shakedown.Path.Basic

/-!
# The project root above a directory

The nearest directory, from a start upwards, that holds a regular file `Cargo.toml`. Which files
exist is a parameter.
-/

namespace Shakedown

/-- The manifest that marks a project root. -/
def Path.manifest : Path := ⟨"Cargo.toml"⟩

/-- The nearest ancestor of `start`, itself included, whose manifest is a regular file. -/
def Path.findProjectRoot (isFile : Path → Bool) (start : Path) : Option Path :=
  start.ancestors.find? fun dir => isFile (dir.join manifest)

end Shakedown
