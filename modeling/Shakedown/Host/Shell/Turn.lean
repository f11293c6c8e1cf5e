import Shakedown.Host.Launch

/-!
# A shell at work

What every step of a shell is made of: setting its status, writing, redirecting descriptors, starting
children, and coming to its end.
-/

namespace Shakedown.Host.Shell

/-- A shell at work: its host, its process, and its state. -/
structure Turn where
  world : World
  process : Process
  shell : ShellState

/-- How a step of a shell ends: there is more to do, it waits for something, or it is gone. -/
inductive Turn.Next where
  | goesOn (t : Turn)
  | waits (t : Turn)
  | gone (w : World)

namespace Turn

/-- The host with the shell's process as it is now. -/
def commit (t : Turn) : World := t.world.setProcess { t.process with machine := .shell t.shell }

/-- The turn with a status. -/
def withStatus (t : Turn) (status : Nat) : Turn := { t with shell := { t.shell with status := status } }

/-- The turn with other frames. -/
def withFrames (t : Turn) (frames : List Frame) : Turn := { t with shell := { t.shell with frames := frames } }

/-- The turn with frames to do first. -/
def push (t : Turn) (frames : List Frame) : Turn := t.withFrames (frames ++ t.shell.frames)

/-- The turn with other variables. -/
def withVariables (t : Turn) (vars : List (String × String)) : Turn :=
  { t with shell := { t.shell with vars := vars } }

/-- The turn with a variable handed on to children. -/
def exportVariable (t : Turn) (name : String) : Turn :=
  if t.shell.exported.contains name then t
  else { t with shell := { t.shell with exported := t.shell.exported ++ [name] } }

/-- The turn after a variable has been given a value: it may be handed on, and reading options may start
anew. -/
def noteAssigned (t : Turn) (name value : String) : Turn :=
  let t := if t.shell.switches.contains 'a' then t.exportVariable name else t
  if name == "OPTIND" then { t with shell := { t.shell with place := { index := max 1 (value.toNat?.getD 1) } } }
  else t

/-- The turn with a variable set. -/
def assign (t : Turn) (name value : String) : Turn :=
  (t.withVariables (setVariable name value t.shell.vars)).noteAssigned name value

/-- The turn with a variable set to a value, or unset. -/
def restoreVariable (t : Turn) (name : String) (value : Option String) : Turn :=
  match value with
  | some v => t.assign name v
  | none => t.withVariables (t.shell.vars.filter (·.1 != name))

/-- The variables that children get. -/
def environment (t : Turn) : List (String × String) :=
  t.shell.exported.filterMap fun name => (t.shell.vars.lookup name).map fun v => (name, v)

/-- What expansion reads of the shell. -/
def scope (t : Turn) : Scope :=
  { vars := t.shell.vars, name := t.shell.name, args := t.shell.args, status := t.shell.status,
    number := t.shell.number, lastJob := t.shell.lastJob, refusesUnset := t.shell.switches.contains 'u',
    switches := String.ofList (t.shell.switches.filter Char.isAlpha).reverse, locked := t.shell.locked, files := t.world.files, here := t.process.here }

/-- Bytes are written to a descriptor. -/
def write (t : Turn) (descriptor : Nat) (bytes : List UInt8) : Except OsError Turn :=
  match t.process.handle? descriptor with
  | none => if bytes.isEmpty then .ok t else .error .badDescriptor
  | some h => (t.world.writeTo h bytes).map fun w => { t with world := w }

/-- A complaint goes to the error stream. -/
def complain (t : Turn) (text : String) : Turn :=
  match t.write 2 (Text.Utf8.encode (text ++ "\n")) with
  | .ok t => t
  | .error _ => t

/-- A complaint about a line of the script. -/
def warn (t : Turn) (line : Nat) (message : String) : Turn :=
  t.complain s!"{t.shell.name}: {line}: {message}"

/-- The shell's process ends. -/
def finish (t : Turn) (ending : Ending) : Next := .gone (t.commit.finish t.process.number ending)

/-- The shell comes to its end: what it is to do at its end comes first. The host keeps the lowest byte of
a status. -/
def leave (t : Turn) (status : Nat) : Next :=
  match t.shell.traps.lookup 0 with
  | none => t.finish (.exited (status % 256))
  | some script =>
    let t := { t with shell := { t.shell with traps := t.shell.traps.filter (·.1 != 0), status := status } }
    .goesOn (t.withFrames [.run (Shell.script script.toList).body [], .leave (status % 256)])

/-- The shell ends with a complaint. -/
def fail (t : Turn) (line : Nat) (message : String) (status : Nat) : Next := (t.warn line message).leave status

/-- Whether the status of what runs now is tested. -/
def isTested (t : Turn) : Bool :=
  t.shell.isTested || t.shell.frames.any fun f =>
    match f with
    | .onSuccess _ | .onFailure _ | .branch .. | .loopTest .. | .invert => true
    | _ => false

/-- A command has ended; a failure that nothing tests may end the shell. -/
def settle (t : Turn) (status : Nat) : Next :=
  let t := t.withStatus status
  if t.shell.switches.contains 'e' && status != 0 && !t.isTested then t.leave status else .goesOn t

/-- The status that tells of an ending. -/
def statusOf : Ending → Nat
  | .exited code => code.toNat
  | .signalled n => 128 + n

/-- The words for an ending by a signal that a shell tells of. -/
def deathNotice : Ending → Option String
  | .exited _ => none
  | .signalled n => if n == 2 || n == 13 then none else some (Signal.wordsOf n)

/-- The end of a child is seen: its status. -/
def reap (t : Turn) (number : Nat) (ending : Ending) (tell : Bool) : Turn × Nat :=
  let t := if tell then
      match deathNotice ending with
      | some text => t.complain text
      | none => t
    else t
  ({ t with world := t.world.markSeen number }, statusOf ending)

/-- The number of loops that a shell is in, up to the function that it is in, and that of the loops around
the shell itself. -/
def loops (t : Turn) : Nat × Nat :=
  let isCall (f : Frame) : Bool := match f with
    | .call .. => true
    | _ => false
  let near := t.shell.frames.takeWhile fun f => !isCall f
  ((near.filter Frame.isLoop).length, if near.length = t.shell.frames.length then t.shell.loopsAround else 0)

/-- A child shell with its own frames and descriptors. Of what it is to do on signals it keeps what it
ignores. -/
def fork (t : Turn) (handles : List (Nat × Handle)) (ignored : List Nat) (frames : List Frame) : Turn × Nat :=
  let (own, around) := t.loops
  let child : ShellState :=
    { t.shell with frames := frames, traps := t.shell.traps.filter fun s => s.2.isEmpty, jobs := [],
                   lastReplaces := true, isTested := t.isTested, loopsAround := own + around }
  let (w, number) := t.world.addProcess fun number =>
    { number := number, parent := t.process.number, group := t.process.group, machine := .shell child,
      handles := handles, here := t.process.here, environment := t.process.environment, mask := t.process.mask,
      ignored := t.process.ignored ++ ignored, wakeAt := t.world.clock }
  ({ t with world := w }, number)

/-- A child that runs a program. -/
def start (t : Turn) (i : Image) (environment : List (String × String)) : Turn × Nat :=
  let (w, number) := t.world.addProcess fun number =>
    { number := number, parent := t.process.number, group := t.process.group,
      machine := .program i.name i.own i.args [], handles := t.process.handles, here := t.process.here,
      environment := environment, mask := t.process.mask, ignored := t.process.ignored,
      wakeAt := t.world.clock + World.startUp }
  ({ t with world := w }, number)

/-- The shell becomes a program. -/
def replace (t : Turn) (i : Image) (environment : List (String × String)) : Next :=
  .gone (t.world.setProcess { t.process with
    machine := .program i.name i.own i.args [], environment := environment, pending := [],
    wakeAt := t.world.clock + World.startUp })

/-- What executing a command name leads to, or the complaint and the status. A file that is no
program is a script. -/
def imageOf (t : Turn) (environment : List (String × String)) (name : String) (args : List String) :
    Except (String × Nat) Image :=
  let files := t.world.files
  let here := t.process.here
  let asScript (path : String) : Except (String × Nat) Image :=
    (files.image here "/bin/sh" "/bin/sh" (path :: args)).mapError fun e => (s!"{name}: {e.words}", 126)
  let told : OsError → Except (String × Nat) Image
    | .noEntry | .notDirectory => .error (s!"{name}: not found", 127)
    | e => .error (s!"{name}: {e.words}", if e == .nameTooLong then 127 else 126)
  if name.isEmpty then .error (": Permission denied", 127)
  else if name.contains '/' then
    match files.image here name name args with
    | .ok i => .ok i
    | .error .execFormat => asScript name
    | .error e => told e
  else
    match (Files.searchDirectories (some ((environment.lookup "PATH").getD ""))).find? fun dir =>
        files.isFile here (if dir.isEmpty then name else dir ++ "/" ++ name) with
    | none => .error (s!"{name}: not found", 127)
    | some dir =>
      let path := if dir.isEmpty then name else dir ++ "/" ++ name
      match files.image here path name args with
      | .ok i => .ok i
      | .error .execFormat => asScript path
      | .error e => told e

/-- The descriptor that a path of the system stands for. -/
def standsFor? (path : String) : Option Nat :=
  match path with
  | "/dev/stdin" => some 0
  | "/dev/stdout" => some 1
  | "/dev/stderr" => some 2
  | _ => if path.startsWith "/dev/fd/" then (path.drop 8).toString.toNat? else none

/-- The words for a file that cannot be opened. -/
def openingFault (verb missing path : String) : OsError → String
  | .noEntry | .notDirectory => s!"cannot {verb} {path}: {missing}"
  | e => s!"cannot {verb} {path}: {e.words}"

/-- The shell with a descriptor that leads to a file for writing. -/
def openForWriting (t : Turn) (descriptor : Nat) (path : String) (append : Bool) : Except String Turn :=
  match t.world.files.openForWriting t.process.here path with
  | .error e => .error (openingFault "create" "Directory nonexistent" path e)
  | .ok (files, i) =>
    match files.node? i with
    | some ⟨.null, _⟩ => .ok { t with process := t.process.setHandle descriptor (some .null) }
    | _ =>
      let files := files.withhold t.process.mask t.world.files.nodes.size
      let files := if append then files else files.truncate i
      let (w, h) := { t.world with files := files }.addOpen ⟨i, 0, append⟩
      .ok { t with world := w, process := t.process.setHandle descriptor (some h) }

/-- The shell with a descriptor that leads to a file for reading. -/
def openForReading (t : Turn) (descriptor : Nat) (path : String) : Except String Turn :=
  match t.world.files.find t.process.here path with
  | .error e => .error (openingFault "open" "No such file" path e)
  | .ok place =>
    match t.world.files.node? (place.headD 0) with
    | some ⟨.null, _⟩ => .ok { t with process := t.process.setHandle descriptor (some .null) }
    | some n =>
      if !n.isReadable then .error (openingFault "open" "No such file" path .permission)
      else
        let (w, h) := t.world.addOpen ⟨place.headD 0, 0, false⟩
        .ok { t with world := w, process := t.process.setHandle descriptor (some h) }
    | none => .error (openingFault "open" "No such file" path .noEntry)

/-- The shell with a descriptor that leads where another does. -/
def duplicate (t : Turn) (descriptor source : Nat) : Except String Turn :=
  match t.process.handle? source with
  | some h => .ok { t with process := t.process.setHandle descriptor (some h) }
  | none => .error s!"{source}: Bad file descriptor"

/-- The shell with a descriptor that reads a text. -/
def openDocument (t : Turn) (descriptor : Nat) (text : String) : Turn :=
  let (files, i) := t.world.files.addNode ⟨.file (Text.Utf8.encode text), 0o600⟩
  let (w, h) := { t.world with files := files }.addOpen ⟨i, 0, false⟩
  { t with world := w, process := t.process.setHandle descriptor (some h) }

/-- The shell with one redirection made. -/
def redirect (t : Turn) (r : Redirect) (target : String) : Except String Turn :=
  match r.kind, standsFor? target with
  | .document, _ => .ok (t.openDocument r.descriptor target)
  | .duplicate, _ =>
    if target == "-" then .ok { t with process := t.process.setHandle r.descriptor none }
    else
      match target.toNat? with
      | some source => t.duplicate r.descriptor source
      | none => .error "Syntax error: Bad fd number"
  | _, some source => t.duplicate r.descriptor source
  | .write, none =>
    if t.shell.switches.contains 'C' && t.world.files.isFile t.process.here target then
      .error s!"cannot create {target}: File exists"
    else t.openForWriting r.descriptor target false
  | .force, none => t.openForWriting r.descriptor target false
  | .append, none => t.openForWriting r.descriptor target true
  | .read, none => t.openForReading r.descriptor target

/-- The shell with redirections made in order, what the descriptors led to before, and the complaint
that stopped it. -/
def redirectAll (t : Turn) (saved : List (Nat × Option Handle)) :
    List (Redirect × String) → Turn × List (Nat × Option Handle) × Option String
  | [] => (t, saved, none)
  | (r, target) :: rest =>
    match t.redirect r target with
    | .ok changed => redirectAll changed ((r.descriptor, t.process.handle? r.descriptor) :: saved) rest
    | .error message => (t, saved, some message)

/-- The shell with descriptors as they were before, the latest change first. -/
def restore (t : Turn) (saved : List (Nat × Option Handle)) : Turn :=
  { t with process := saved.foldl (fun p s => p.setHandle s.1 s.2) t.process }

/-- What a frame that is given up leaves to be undone. -/
def undo (t : Turn) : Frame → Turn
  | .restore saved => t.restore saved
  | .assigned (saved, exported) =>
    let t := saved.foldl (fun t s => t.restoreVariable s.1 s.2) t
    { t with shell := { t.shell with exported := exported } }
  | .call args place saved =>
    let t := saved.foldl (fun t s => t.restoreVariable s.1 s.2) t
    { t with shell := { t.shell with args := args, place := place } }
  | _ => t

/-- The shell with frames given up until a number of frames of a kind are passed; `keep` leaves the
last of them in place. None if there are not as many. -/
def unwind (isTarget : Frame → Bool) (keep : Bool) : Nat → List Frame → Turn → Option Turn
  | _, [], _ => none
  | n, f :: rest, t =>
    if isTarget f then
      if n ≤ 1 then some (if keep then t.withFrames (f :: rest) else (t.undo f).withFrames rest)
      else unwind isTarget keep (n - 1) rest (t.undo f)
    else unwind isTarget keep n rest (t.undo f)

end Turn
end Shakedown.Host.Shell
