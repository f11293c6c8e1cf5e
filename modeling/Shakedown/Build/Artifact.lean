import Shakedown.Plan.Basic

/-!
# Where executables are

Compiled targets lie below the target directory, examples in a directory of their own; a program
with more than one path component is taken against the project root, and a bare name is looked up
on the search path. What files exist is a parameter, `FileView`.
-/

namespace Shakedown

/-- What look-ups need to know of the file system and the environment: which paths are regular
files, which may be executed, the configured target directory, the search path, and the home directory. -/
structure FileView where
  isFile : Path → Bool
  isExecutable : Path → Bool
  targetDir : Option String
  searchPath : Option String
  home : Option String

/-- Why an executable was not found. -/
inductive LookupFault where
  | notBuilt (path : Path)
  | missing (path : Path)
  | notOnSearchPath (program : String)
  | noSearchPath (program : String)
deriving DecidableEq, Repr

/-- Why an executable was not found, in words. -/
def LookupFault.message : LookupFault → String
  | .notBuilt path => s!"{path} not found (was it built?)"
  | .missing path => s!"{path} not found"
  | .notOnSearchPath program => s!"{program} not found on PATH: cannot find binary path"
  | .noSearchPath program =>
    s!"{program} not found on PATH: no path to search and provided name is not an absolute path"

/-- The target directory for a project root and a configured directory; an empty one counts as
none. -/
def targetDirectory (root : Path) (configured : Option String) : Path :=
  match configured with
  | some dir => if dir.isEmpty then root.join ⟨"target"⟩ else root.resolveAgainst ⟨dir⟩
  | none => root.join ⟨"target"⟩

/-- A directory whose first component is a tilde lies in the home directory, if there is one. -/
def expandHome (home : Option String) (dir : Path) : Path :=
  match home, dir.split.1, dir.names with
  | some home, .name, "~" :: names =>
    if home.isEmpty then dir else names.foldl (fun path name => path.join ⟨name⟩) ⟨home⟩
  | _, _, _ => dir

/-- The directories of a search path. -/
def searchDirs (home : Option String) (searchPath : String) : List Path :=
  (searchPath.splitOn ":").map fun dir => expandHome home ⟨dir⟩

namespace FileView

/-- The first directory entry on the search path that is a regular executable file. -/
def lookUp (v : FileView) (program : String) : Except LookupFault Path :=
  match v.searchPath with
  | none => .error (.noSearchPath program)
  | some searchPath =>
    match ((searchDirs v.home searchPath).map fun dir => dir.join ⟨program⟩).find? fun p =>
        v.isFile p && v.isExecutable p with
    | some path => .ok path
    | none => .error (.notOnSearchPath program)

/-- The file of a program: a path against the root, or a bare name on the search path. -/
def resolveProgram (v : FileView) (root : Path) (program : Path) : Except LookupFault Path :=
  if 1 < program.componentCount || program.isAbsolute then
    let path := root.resolveAgainst program
    if v.isFile path then .ok path else .error (.missing path)
  else v.lookUp program.text

/-- A compiled file, if it is there. -/
def builtFile (v : FileView) (path : Path) : Except LookupFault Path :=
  if v.isFile path then .ok path else .error (.notBuilt path)

/-- The executable of a target. -/
def locate (v : FileView) (root : Path) (profile : Profile) (t : Target) : Except LookupFault Path :=
  let dir := (targetDirectory root v.targetDir).join ⟨profile.dirName⟩
  match t with
  | .example name => v.builtFile ((dir.join ⟨"examples"⟩).join ⟨name⟩)
  | .bin name => v.builtFile (dir.join ⟨name⟩)
  | .program path => v.resolveProgram root path

end FileView
end Shakedown
