import Shakedown.CommandLine.Program
import Shakedown.Host.Network
import Shakedown.Host.Outside
import Shakedown.Text.Style

/-!
# The host around a program

What the runner as a program and the stubs need, given by a host. A process that becomes a runner runs that program
in turn, with its own directory, variables and streams.
-/

namespace Shakedown.Host

namespace World

variable [RunnerProgram]

/-- Whether a path names a directory. -/
def isDirectory (w : World) (path : Path) : Bool := w.files.isDirectory w.here path.text

/-- A file gets a text as its content. -/
def writeText (path : Path) (text : String) (w : World) : Except String World :=
  if w.isGone then .ok w
  else
    match w.files.write w.here path.text (Text.Utf8.encode text) with
    | .ok files => .ok { w with files := files }
    | .error e => .error e.message

/-- The directories of a path are made as far as they are missing. -/
def makeDirectories (path : Path) (w : World) : Except String World :=
  match w.files.makeDirectories w.here path.text 0o755 with
  | .ok files => .ok { w with files := files }
  | .error e => .error e.message

/-- A text is added to the end of a file, which is made if it is missing. -/
def appendText (path : Path) (text : String) (w : World) : Except String World :=
  match w.files.openForWriting w.here path.text with
  | .ok (files, node) => .ok ({ w with files := files }.addText node text)
  | .error e => .error e.message

/-- Diagnostics go to a file as well from now on, after what it holds. -/
def keepLog (path : Path) (w : World) : Except String World :=
  match w.files.openForWriting w.here path.text with
  | .ok (files, node) => .ok { w with files := files, logNode := some node }
  | .error e => .error e.message

/-- The host around a command. Its streams are no terminals. -/
def around : CommandLine.Surroundings World where
  outside := outside
  variable_ w := fun name => w.environment.lookup name
  accountHome _ := some accountHome
  colours w := Text.isColoured (fun name => w.environment.lookup name) false
  cwd := cwd
  read := readText
  doesExist := doesExist
  isDirectory := isDirectory
  write := writeText
  printError text w := w.printError text
  makeDirectories := makeDirectories
  keepLog := keepLog
  tell f w := { w with told := f }

/-- The host around a stub. -/
def aroundStub : Stub.Surroundings World where
  number w := w.runner
  print text w := w.print text
  printError text w := w.printError text
  pause ms w := { w with clock := w.clock + millis ms }
  write := writeText
  append := appendText
  exchange := exchange
  listen := listen

/-- The runner of a process is at work, from its start to its end. Then the one goes on that was at work before. -/
def runInside (p : Process) (args : List String) (w : World) : World :=
  let begun := { w with
    runner := p.number, here := p.here, environment := p.environment, signalWhen := none, signalled := false,
    told := .silent, logNode := none }
  let (conclusion, done) := CommandLine.runProgram around args begun
  { done.finish p.number (.exited conclusion.status) with
    runner := w.runner, here := w.here, environment := w.environment, signalWhen := w.signalWhen,
    signalled := w.signalled, told := w.told, logNode := w.logNode, reading := w.reading }

end World

/-- The runner as a program of the host, where so many can start one another. -/
@[reducible] def runnerWithin : Nat → RunnerProgram
  | 0 => ⟨fun p _ w => w.refuse p "Error: too many runners\n" 1⟩
  | depth + 1 =>
    letI := runnerWithin depth
    ⟨World.runInside⟩

/-- The most runners that start one another. -/
def deepestRunner : Nat := 4

instance : RunnerProgram := runnerWithin deepestRunner

end Shakedown.Host
