import Shakedown.CommandLine.Program
import Shakedown.Host.Surroundings

/-!
# The command line

The program is run on a host in memory that holds the files which its arguments and variables name.
What it prints is printed, and the files that it was asked to write are written.
-/

namespace Shakedown

open CommandLine (Request RunRequest)

/-- The variables that the program looks at. -/
def watchedVariables : List String :=
  ["HOME", "PATH", "SMOKE_CONFIG", "XDG_CONFIG_HOME", "RUST_LOG", "CARGO_TARGET_DIR", "NO_COLOR", "CLICOLOR",
    "CLICOLOR_FORCE"]

/-- The files that a request reads and the files that it writes. -/
def namedFiles (r : Request) : List Path × List Path :=
  match r.command with
  | .run run => (run.plan.toList, run.report.toList ++ r.logFile.toList)
  | .validate plan => ([plan], r.logFile.toList)
  | .showPlan => ([], r.logFile.toList)

/-- The host with a directory. -/
def Host.World.withDirectory (w : Host.World) (path : Path) : Host.World :=
  match w.makeDirectories path with
  | .ok w => w
  | .error _ => w

/-- The host with a file. -/
def Host.World.withFile (w : Host.World) (path : Path) (bytes : List UInt8) : Host.World :=
  let w := match path.parent with
    | some dir => w.withDirectory dir
    | none => w
  { w with files := w.files.attempt fun f => f.write w.here path.text bytes }

/-- The host with the content that a file has. -/
def copyIn (w : Host.World) (path : Path) : IO Host.World := do
  match ← (IO.FS.readBinFile path.text).toBaseIO with
  | .ok bytes => return w.withFile path bytes.toList
  | .error _ => return w

/-- A file gets the content that it has on the host. -/
def copyOut (w : Host.World) (path : Path) : IO Unit := do
  match w.files.read w.here path.text with
  | .ok bytes =>
    let _ ← (IO.FS.writeBinFile path.text ⟨bytes.toArray⟩).toBaseIO
  | .error _ => return

/-- The values of the variables that the program looks at. -/
def readVariables : IO (List (String × String)) := do
  let values ← watchedVariables.mapM fun name => do
    return (← IO.getEnv name).map fun value => (name, value)
  return values.filterMap id

/-- The host that a request finds. -/
def readHost (r : Option Request) : IO Host.World := do
  let environment ← readVariables
  let cwd : Path := ⟨(← IO.currentDir).toString⟩
  let empty : Host.World := { files := Host.systemFiles, environment := environment }
  let w := empty.withDirectory cwd
  let w := match w.files.find [0] cwd.text with
    | .ok place => { w with here := place }
    | .error _ => w
  let manifests := cwd.ancestors.map fun dir => dir.join Path.manifest
  let settings := (Settings.path? (fun name => environment.lookup name) (some Host.accountHome)).toList
  let plans := (r.map fun r => (namedFiles r).1).getD []
  (manifests ++ settings ++ plans).foldlM copyIn w

end Shakedown

/-- The program. -/
def main (args : List String) : IO UInt32 := do
  let request := (Shakedown.CommandLine.Request.parse args).toOption
  let (conclusion, w) :=
    Shakedown.CommandLine.runProgram Shakedown.Host.World.around args (← Shakedown.readHost request)
  (← IO.getStdout).write w.stdout
  (← IO.getStderr).write w.stderr
  match request with
  | some r => (Shakedown.namedFiles r).2.forM fun path => Shakedown.copyOut w path
  | none => pure ()
  return conclusion.status.toUInt32
