import Shakedown.Failure
import Shakedown.Host.Shell.Expansion
import Shakedown.Host.System
import Shakedown.Log.Filter
import Shakedown.Process.Ending
import Shakedown.Process.Invocation
import Shakedown.Readiness.Policy
import Shakedown.Text.Utf8

/-!
# A host and its processes

The state of a host: a clock, files, processes with their descriptors, and the pipes between them.
A process is a runner, a shell or a program of the system. The first one is a runner, and others can become runners
of their own; one of them is at work, and those that have led to it wait. Processes that have ended stay until their
parent has seen it.
-/

namespace Shakedown.Host

/-- What a descriptor leads to. -/
inductive Handle where
  | null
  | file (description : Nat)
  | pipeIn (pipe : Nat)
  | pipeOut (pipe : Nat)
  | output (stream : Stream)
deriving DecidableEq, Repr

/-- An open file: its node, the offset of the next byte, and whether writing goes to its end. -/
structure OpenFile where
  node : Nat
  offset : Nat
  append : Bool
deriving Repr

/-- How far a shell has read the options among its arguments: the number of the next argument, and the
place in the one before it if that has more letters. -/
structure OptionPlace where
  index : Nat := 1
  offset : Option Nat := none
deriving DecidableEq, Repr

/-- What a shell has yet to do, innermost first. A command that is run knows the outputs of its
substitutions so far, each with its status. -/
inductive Frame where
  | run (c : Shell.Command) (outputs : List (String × Nat))
  | onSuccess (c : Shell.Command)
  | onFailure (c : Shell.Command)
  | invert
  | branch (yes : Shell.Command) (no : Option Shell.Command)
  | loopTest (isUntil : Bool) (test body : Shell.Command) (last : Nat)
  | loopBody (isUntil : Bool) (test body : Shell.Command)
  | each (variable_ : String) (items : List String) (body : Shell.Command)
  | restore (saved : List (Nat × Option Handle))
  | assigned (saved : List (String × Option String) × List String)
  | foreground (number : Nat)
  | stages (numbers : List Nat)
  | substitution (number pipe : Nat) (read : List UInt8) (c : Shell.Command) (outputs : List (String × Nat))
  | jobs (numbers : List Nat) (isAll : Bool)
  | call (args : List String) (place : OptionPlace) (saved : List (String × Option String))
  | source (name : String)
  | evaluation
  | trap (status : Nat)
  | leave (status : Nat)
deriving Repr

/-- Whether a frame is that of a loop. -/
def Frame.isLoop : Frame → Bool
  | .loopTest .. | .loopBody .. | .each .. => true
  | _ => false

/-- The handles that a frame keeps to put them back. -/
def Frame.kept : Frame → List Handle
  | .restore saved => saved.filterMap (·.2)
  | _ => []

/-- The state of a shell. Its last command takes its place if `lastReplaces`; its status is tested by
the shell around it if `isTested`, and it may itself stand in loops of that shell; `switches` are the
letters of the options that are on; `locked` variables keep their values; an alias knows the line after
which it holds. What is to be done on a signal is empty if the signal is ignored. -/
structure ShellState where
  vars : List (String × String)
  exported : List String
  name : String
  args : List String
  number : Nat
  frames : List Frame
  status : Nat := 0
  lastJob : Option Nat := none
  jobs : List Nat := []
  traps : List (Nat × String) := []
  functions : List (String × Shell.Command) := []
  switches : List Char := []
  locked : List String := []
  aliases : List (String × String × Nat) := []
  place : OptionPlace := {}
  lastReplaces : Bool := false
  isTested : Bool := false
  loopsAround : Nat := 0

/-- What a process runs: a runner, which may be watching for requests to end its run, a shell, a program of the
system, which knows by what name it was started and what it has read, or only its end. -/
inductive Machine where
  | runner (isWatching : Bool)
  | shell (s : ShellState)
  | program (name own : String) (args : List String) (input : List UInt8)
  | leaving (ending : Ending)

/-- A process. It does nothing before the time `wakeAt`, nor while it is stopped and signals are held
back from it. The bits of `mask` are withheld from the files that it makes. -/
structure Process where
  number : Nat
  parent : Nat
  group : Nat
  machine : Machine
  handles : List (Nat × Handle)
  here : Place
  environment : List (String × String)
  mask : Nat := 0o022
  ignored : List Nat := []
  pending : List Nat := []
  held : Option (List Nat) := none
  wakeAt : Nanos := 0
  ending : Option Ending := none
  seen : Bool := false

/-- The first process: a runner whose streams are those of the host. -/
def Process.outermost : Process where
  number := firstNumber
  parent := 0
  group := firstNumber
  machine := .runner false
  handles := [(0, .null), (1, .output .stdout), (2, .output .stderr)]
  here := [0]
  environment := []

/-- A host. The directory and the variables are those of the runner at work, as are the request that it is to be sent
and what its diagnostics are. -/
structure World where
  clock : Nanos := 0
  files : Files
  processes : Array Process := #[.outermost]
  pipes : Array (List UInt8) := #[]
  opens : Array OpenFile := #[]
  reading : List Nat := []
  stdout : ByteArray := .empty
  stderr : ByteArray := .empty
  runner : Nat := firstNumber
  here : Place := [0]
  environment : List (String × String) := []
  signalWhen : Option (String × Interrupt) := none
  signalled : Bool := false
  told : Log.Filter := .silent
  logNode : Option Nat := none

namespace Process

/-- Whether the process has not ended. -/
def isRunning (p : Process) : Bool := p.ending.isNone

/-- Whether the process is a runner that watches for a signal. -/
def watchesFor (p : Process) (sig : Nat) : Bool :=
  match p.machine with
  | .runner isWatching => isWatching && (sig == 2 || sig == 15)
  | _ => false

/-- Whether the process leaves the ends of its children to the system: it is a runner that ignores the signal which
tells of them. -/
def leavesChildren (p : Process) : Bool :=
  match p.machine with
  | .runner _ => p.ignored.contains 17
  | _ => false

/-- The handle of a descriptor. -/
def handle? (p : Process) (d : Nat) : Option Handle := p.handles.lookup d

/-- Whether the process holds a handle, under a descriptor or for later. -/
def holds (p : Process) (h : Handle) : Bool :=
  p.handles.any (·.2 == h) ||
    match p.machine with
    | .shell s => s.frames.any (·.kept.contains h)
    | _ => false

/-- The process with a descriptor set or closed. -/
def setHandle (p : Process) (d : Nat) (h : Option Handle) : Process :=
  let others := p.handles.filter (·.1 != d)
  { p with handles := match h with
      | some h => (d, h) :: others
      | none => others }

end Process

namespace World

/-- The position of a process. -/
def index (number : Nat) : Nat := number - firstNumber

/-- A process by its number. -/
def process? (w : World) (number : Nat) : Option Process :=
  if number < firstNumber then none else w.processes[index number]?

/-- The world with a process changed. -/
def setProcess (w : World) (p : Process) : World :=
  { w with processes := w.processes.setIfInBounds (index p.number) p }

/-- The world with the process of a number changed. -/
def modifyProcess (w : World) (number : Nat) (f : Process → Process) : World :=
  match w.process? number with
  | some p => w.setProcess (f p)
  | none => w

/-- Whether a running process holds a handle. -/
def holds (w : World) (h : Handle) : Bool :=
  w.processes.any fun p => p.isRunning && p.holds h

/-- Whether a pipe can still be written to. -/
def hasWriter (w : World) (pipe : Nat) : Bool := w.holds (.pipeOut pipe)

/-- Whether a pipe is still read. -/
def hasReader (w : World) (pipe : Nat) : Bool := w.reading.contains pipe || w.holds (.pipeIn pipe)

/-- The bytes in a pipe. -/
def pipeBytes (w : World) (pipe : Nat) : List UInt8 := (w.pipes[pipe]?).getD []

/-- The world with other bytes in a pipe. -/
def setPipe (w : World) (pipe : Nat) (bytes : List UInt8) : World :=
  { w with pipes := w.pipes.setIfInBounds pipe bytes }

/-- The world with a new pipe. -/
def addPipe (w : World) : World × Nat := ({ w with pipes := w.pipes.push [] }, w.pipes.size)

/-- The world with an open file more. -/
def addOpen (w : World) (f : OpenFile) : World × Handle :=
  ({ w with opens := w.opens.push f }, .file w.opens.size)

/-- Bytes are written to one of the host's streams. -/
def emit (w : World) (s : Stream) (bytes : List UInt8) : World :=
  match s with
  | .stdout => { w with stdout := bytes.foldl ByteArray.push w.stdout }
  | .stderr => { w with stderr := bytes.foldl ByteArray.push w.stderr }

/-- Bytes are written to a handle. -/
def writeTo (w : World) (h : Handle) (bytes : List UInt8) : Except OsError World :=
  match h with
  | .null => .ok w
  | .output s => .ok (w.emit s bytes)
  | .pipeIn _ => .error .badDescriptor
  | .pipeOut pipe =>
    if w.hasReader pipe then .ok (w.setPipe pipe (w.pipeBytes pipe ++ bytes)) else .error .brokenPipe
  | .file d =>
    match w.opens[d]? with
    | none => .error .badDescriptor
    | some f =>
      let offset := if f.append then w.files.size f.node else f.offset
      .ok { w with
        files := w.files.writeAt f.node offset bytes
        opens := w.opens.setIfInBounds d { f with offset := offset + bytes.length } }

/-- The handle of a stream of the runner at work. -/
def streamHandle? (w : World) (s : Stream) : Option Handle :=
  (w.process? w.runner).bind fun p => p.handle? (match s with
    | .stdout => 1
    | .stderr => 2)

/-- The runner at work writes to one of its streams. -/
def express (w : World) (s : Stream) (bytes : List UInt8) : World :=
  match (w.streamHandle? s).map (w.writeTo · bytes) with
  | some (.ok w) => w
  | _ => w

/-- What can be read from a handle now: bytes, the end, or nothing yet. -/
def readFrom (w : World) (h : Handle) : Option (List UInt8) × World :=
  match h with
  | .null | .output _ | .pipeOut _ => (some [], w)
  | .pipeIn pipe =>
    let bytes := w.pipeBytes pipe
    if bytes.isEmpty && w.hasWriter pipe then (none, w) else (some bytes, w.setPipe pipe [])
  | .file d =>
    match w.opens[d]? with
    | none => (some [], w)
    | some f =>
      match w.files.node? f.node with
      | some ⟨.file bytes, _⟩ =>
        (some (bytes.drop f.offset), { w with opens := w.opens.setIfInBounds d { f with offset := bytes.length } })
      | _ => (some [], w)

/-- The next line that can be read from a handle: its bytes without the line feed, and whether the end
came instead of one; nothing yet if neither has come. -/
def readLine (w : World) (h : Handle) : Option (List UInt8 × Bool × World) :=
  match h with
  | .null | .output _ | .pipeOut _ => some ([], true, w)
  | .pipeIn pipe =>
    let bytes := w.pipeBytes pipe
    let line := bytes.takeWhile (· != 10)
    if line.length < bytes.length then some (line, false, w.setPipe pipe (bytes.drop (line.length + 1)))
    else if w.hasWriter pipe then none
    else some (line, true, w.setPipe pipe [])
  | .file d =>
    match w.opens[d]? with
    | none => some ([], true, w)
    | some f =>
      match w.files.node? f.node with
      | some ⟨.file bytes, _⟩ =>
        let rest := bytes.drop f.offset
        let line := rest.takeWhile (· != 10)
        let taken := min (line.length + 1) rest.length
        some (line, decide (rest.length ≤ line.length),
          { w with opens := w.opens.setIfInBounds d { f with offset := f.offset + taken } })
      | _ => some ([], true, w)

/-- The directory of a process below `/proc`. -/
def procPath (number : Nat) : String := s!"/proc/{number}"

/-- The status file of a process. -/
def statusText (number : Nat) (state : String) : List UInt8 :=
  Text.Utf8.encode s!"Name:\tprocess\nState:\t{state}\nPid:\t{number}\n"

/-- The world with the state of a process told below `/proc`. -/
def publish (w : World) (number : Nat) (state : String) : World :=
  let dir := procPath number
  let files := w.files.attempt fun f => f.makeDirectories [0] dir 0o555
  match files.find [0] (dir ++ "/status") with
  | .ok place => { w with files := files.setNode (place.headD 0) ⟨.file (statusText number state), 0o444⟩ }
  | .error _ =>
    match files.find [0] dir with
    | .ok place =>
      { w with files := (files.addEntry (place.headD 0) "status" ⟨.file (statusText number state), 0o444⟩).1 }
    | .error _ => { w with files := files }

/-- The world after the end of a process has been seen by its parent. -/
def markSeen (w : World) (number : Nat) : World :=
  match w.files.find [0] "/proc" with
  | .ok place =>
    { w.modifyProcess number fun p => { p with seen := true } with
      files := w.files.removeEntry (place.headD 0) (toString number) }
  | .error _ => w.modifyProcess number fun p => { p with seen := true }

/-- The world with the children of a process left to the system, which sees their ends at once. -/
def orphan (w : World) (number : Nat) : World :=
  w.processes.foldl (fun w p =>
    if p.parent == number then
      let w := w.modifyProcess p.number fun p => { p with parent := 1 }
      if p.isRunning || p.seen then w else w.markSeen p.number
    else w) w

/-- Whether the ends of a process's children are seen by the system. -/
def areLeft (w : World) (parent : Nat) : Bool := parent == 1 || (w.process? parent).any Process.leavesChildren

/-- A process ends. -/
def finish (w : World) (number : Nat) (ending : Ending) : World :=
  match w.process? number with
  | none => w
  | some p =>
    if p.isRunning then
      let w := w.setProcess { p with ending := some ending, handles := [] }
      let w := w.orphan number
      if w.areLeft p.parent then w.markSeen number else w.publish number "Z (zombie)"
    else w

/-- A signal does to a process what its default is. A stopped process goes on with what it was sent
while it was stopped. -/
def strike (w : World) (p : Process) (sig : Nat) : World :=
  match Signal.defaultOf sig with
  | .ends => w.finish p.number (.signalled sig)
  | .passes | .goesOn => w
  | .stops => (w.setProcess { p with held := some [] }).publish p.number "T (stopped)"

/-- A signal reaches a running process: it is ignored, caught for later, or strikes. -/
def reach (w : World) (number sig : Nat) : World :=
  match w.process? number with
  | none => w
  | some p =>
    let trapped := match p.machine with
      | .shell s => (s.traps.lookup sig).isSome
      | _ => p.watchesFor sig
    if !p.isRunning || p.ignored.contains sig then w
    else if trapped then w.setProcess { p with pending := p.pending ++ [sig] }
    else w.strike p sig

/-- A signal is sent to a process. Two cannot be ignored, and one lets a stopped process go on. -/
def signal (w : World) (number sig : Nat) : World :=
  match w.process? number with
  | none => w
  | some p =>
    if !p.isRunning then w
    else if sig == 9 then w.finish number (.signalled 9)
    else if sig == 19 then w.strike p sig
    else
      match p.held with
      | none => w.reach number sig
      | some held =>
        if sig == 18 then
          let w := (w.setProcess { p with held := none }).publish number "S (sleeping)"
          (held ++ [sig]).foldl (fun w s => w.reach number s) w
        else w.setProcess { p with held := some (held ++ [sig]) }

/-- A signal is sent to all processes of a group. -/
def signalGroup (w : World) (group sig : Nat) : World :=
  w.processes.foldl (fun w p => if p.group == group then w.signal p.number sig else w) w

/-- Whether a process runs. -/
def isRunning (w : World) (number : Nat) : Bool := (w.process? number).any Process.isRunning

/-- Whether the runner at work has ended. What it would still do is left undone. -/
def isGone (w : World) : Bool := !w.isRunning w.runner

/-- How a process ended, if it did. -/
def endingOf (w : World) (number : Nat) : Option Ending := (w.process? number).bind (·.ending)

/-- The time that a new program takes to begin. -/
def startUp : Nanos := millis 1

/-- A process is started. -/
def addProcess (w : World) (make : Nat → Process) : World × Nat :=
  let number := firstNumber + w.processes.size
  let w := { w with processes := w.processes.push (make number) }
  (w.publish number "S (sleeping)", number)

end World
end Shakedown.Host
