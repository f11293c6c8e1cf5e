import Shakedown.Host.Schedule
import Shakedown.Loading
import Shakedown.Session.Outside

/-!
# The host as the world outside a session

The operations of a session on a host. A program that is waited for runs while the host does; what
ends a wait early, a deadline or a request to end the run, also ends the program, but for a client, which the session
itself kills. A runner that has ended itself does nothing any more: its waits are over at once, and it starts, tells
and ends nothing.
-/

namespace Shakedown.Host

namespace World

variable [RunnerProgram]

/-- What look-ups need to know of the host. -/
def view (w : World) : FileView where
  isFile p := w.files.isFile w.here p.text
  isExecutable p := w.files.isExecutable w.here p.text
  targetDir := w.environment.lookup "CARGO_TARGET_DIR"
  searchPath := w.environment.lookup "PATH"
  home := w.environment.lookup "HOME"

/-- The text of a file, or why there is none. -/
def readText (w : World) : ReadText := fun path =>
  match w.files.read w.here path.text with
  | .error e => .error e.message
  | .ok bytes =>
    match Text.Utf8.decode bytes with
    | .ok text => .ok text
    | .error _ => .error OsError.notUtf8.message

/-- Whether a path names anything. -/
def doesExist (w : World) (path : Path) : Bool := w.files.doesExist w.here path.text

/-- The current directory of the runner. It has no path if it was removed. -/
def cwd (w : World) : Except String Path :=
  if w.files.isLinked w.here then .ok ⟨w.files.pathOf w.here⟩ else .error OsError.noEntry.message

/-- A text is printed. -/
def print (w : World) (text : String) : World := w.express .stdout (Text.Utf8.encode text)

/-- A text is printed on the error stream. -/
def printError (w : World) (text : String) : World := w.express .stderr (Text.Utf8.encode text)

/-- Text is added to the end of a file. -/
def addText (w : World) (node : Nat) (text : String) : World :=
  { w with files := w.files.writeAt node (w.files.size node) (Text.Utf8.encode text) }

/-- An event is told if the filter lets it through: on the error stream, and in the log file if there
is one. -/
def log (w : World) (e : Log.Event) : World :=
  if !w.isGone && w.told.isTold e then
    let line := e.line ++ "\n"
    let w := w.printError line
    match w.logNode with
    | some node => w.addText node line
    | none => w
  else w

/-- The descriptors of a child whose output goes where the runner's does. -/
def sharedHandles (w : World) : List (Nat × Handle) :=
  let own := [(1, Stream.stdout), (2, .stderr)].filterMap fun (d, s) => (w.streamHandle? s).map fun h => (d, h)
  (0, .null) :: own

/-- The descriptors of a child whose output goes nowhere. -/
def silentHandles : List (Nat × Handle) := [(0, .null), (1, .null), (2, .null)]

/-- A child is killed, and its end is seen. -/
def putDown (w : World) (number : Nat) : World := if w.isGone then w else (w.signal number 9).markSeen number

/-- Requests to end the run are watched for from now on. -/
def watch (w : World) : World :=
  if w.isGone then w else w.modifyProcess w.runner fun p => { p with machine := .runner true }

/-- A program is started by the runner, which does nothing else while it looks for it. -/
def launchFound (r : LaunchRequest) (w : World) : Except OsError Nat × World :=
  let w := w.pass (w.searchTime r)
  if w.isGone then (.error .noChild, w)
  else
    match w.launch r with
    | .error e => (.error e, w)
    | .ok (w, number) => (.ok number, w)

/-- A build tool is run to its end. -/
def build (program : Path) (args : List String) (root : Path) : Operation World BuildEnd := fun w =>
  match w.launchFound ⟨program.text, args, w.environment, root.text, w.sharedHandles, false⟩ with
  | (.error e, w) => (.ready (.unavailable e.message), w)
  | (.ok number, w) =>
    (.goesOn fun w =>
      match w.await true none (fun w => w.collect number) with
      | (.done (.ok ending), w) => (.done (.ended ending), w)
      | (.done (.error e), w) => (.done (.unavailable e.message), w)
      | (.interrupted i, w) => (.interrupted i, w.putDown number)
      | (.expired, w) => (.done (.unavailable "the build tool does not end"), w), w)

/-- A server is started in a process group of its own. -/
def spawn (r : SpawnRequest) (w : World) : Except String Nat × World :=
  let handles := if r.quiet then silentHandles else w.sharedHandles
  match w.launchFound ⟨r.program.text, r.args, overlay w.environment r.env, r.cwd.text, handles, true⟩ with
  | (.error e, w) => (.error e.message, w)
  | (.ok number, w) => (.ok number, w)

/-- How a server has ended, or was lost. -/
def endOf : Except OsError Ending → ServerEnd
  | .ok ending => .exited ending
  | .error e => .lost e.message

/-- A poll of a wait and a server, which looks at the wait first. -/
def pollWith {α : Type} (server : Nat) (look : World → Option α × World) (w : World) : Option (Race α) × World :=
  let before := (w.collect server).1.map endOf
  let (waited, w) := look w
  let (ended, seen) := w.collect server
  (Race.ofPoll? ⟨.waitFirst, waited, before, ended.map endOf⟩, if waited.isSome then w else seen)

/-- A look that finds out when a time has come. -/
def untilTime (time : Nanos) (w : World) : Option Unit × World := (if time ≤ w.clock then some () else none, w)

/-- A delay, which the end of a server cuts short. It is never over at once. -/
def awaitDelay (server : Nat) (delay : Nanos) : Operation World (Race Unit) := fun w =>
  let time := w.clock + delay
  (.goesOn fun w =>
    match w.await true (some time) (pollWith server (untilTime time)) with
    | (.done r, w) => (.done r, w)
    | (.interrupted i, w) => (.interrupted i, w)
    | (.expired, w) => (.done (.waitOver ()), w), w)

/-- An attempt at a probe is begun: the child that makes it, if there is one. -/
def beginAttempt (probe : Probe) (root : Path) (w : World) : Option Nat × World :=
  match probe with
  | .tcp _ => (none, w)
  | .command [] => (none, w)
  | .command (program :: args) =>
    match w.launchFound ⟨program, args, w.environment, root.text, silentHandles, false⟩ with
    | (.ok number, w) => (some number, w)
    | (.error _, w) => (none, w)

/-- How an attempt at a probe ends: with an answer, beside an end of the server that was there before it was looked
at, or with the end of the server. -/
inductive Attempted where
  | answered (isReady : Bool) (before : Option ServerEnd)
  | server (how : ServerEnd)

/-- Whether a program that makes an attempt at a probe has ended, and with success. -/
def attemptEnd (number : Nat) (w : World) : Option Bool × World :=
  let (e, w) := w.collect number
  let succeeds : Except OsError Ending → Bool
    | .ok ending => ending.succeeded
    | .error _ => false
  (e.map succeeds, w)

/-- A program that makes an attempt at a probe is awaited for its slot, beside the server. -/
def awaitAttempt (server number : Nat) (slot : Nanos) (w : World) : Awaited Attempted × World :=
  match w.await true (some (w.clock + slot)) (pollWith server (attemptEnd number)) with
  | (.done r, w) =>
    match r.winner with
    | .inl ok => (.done (.answered ok r.poll.before), w)
    | .inr how => (.done (.server how), w.putDown number)
  | (.interrupted i, w) => (.interrupted i, w.putDown number)
  | (.expired, w) => (.done (.answered false ((w.collect server).1.map endOf)), w.putDown number)

/-- An attempt at a probe beside a server. A command that cannot be started fails at once, before the server is
looked at; an attempt at an address fails after that. -/
def attempt (server : Nat) (probe : Probe) (root : Path) (slot : Nanos) : Operation World Attempted := fun w =>
  let before := (w.collect server).1.map endOf
  match probe, w.beginAttempt probe root with
  | _, (some number, w) => (.goesOn (awaitAttempt server number slot), w)
  | .command _, (none, w) => (.ready (.answered false before), { w with clock := w.clock + tickLength })
  | .tcp _, (none, w) =>
    match w.collect server with
    | (some e, w) => (.ready (.server (endOf e)), w)
    | (none, w) => (.ready (.answered false none), { w with clock := w.clock + tickLength })

/-- A wait beside a server is over, and the server is not looked at. It may have ended before or by then. -/
def endWait (server : Nat) (e : ProbeEnd) (before : Option ServerEnd) (w : World) : Race ProbeEnd :=
  ⟨⟨.waitFirst, some e, before, (w.collect server).1.map endOf⟩, rfl⟩

/-- The event of an attempt that has failed. -/
def notReady (probe : Probe) (attempt : UInt32) : Log.Event :=
  ⟨.trace, .readiness, "Server not ready yet", [("attempt", .nat attempt.toNat), ("probe", .plain probe.describe)]⟩

/-- The wait for a probe beside a server, from a state of the wait on. -/
def followWait (server : Nat) (probe : Probe) (root : Path) (policy : ReadinessPolicy) (begun : Nanos) :
    Nat → Option ServerEnd → Wait → Operation World (Race ProbeEnd)
  | 0, before, wait => fun w => (.ready (endWait server (.exhausted wait.attempts) before w), w)
  | fuel + 1, before, wait =>
    match wait.request with
    | .probed n elapsed => fun w => (.ready (endWait server (.probed n elapsed) before w), w)
    | .exhausted n => fun w => (.ready (endWait server (.exhausted n) before w), w)
    | .attempt n slot =>
      (attempt server probe root slot).andThen fun end_ w =>
        match end_ with
        | .answered ok before =>
          let w := if ok then w else w.log (notReady probe n)
          followWait server probe root policy begun fuel before (wait.answer policy ok (w.clock - begun)) w
        | .server how => (.ready (.serverOver how), w)
    | .sleep delay =>
      (awaitDelay server delay).andThen fun race w =>
        match race.winner with
        | .inl () =>
          followWait server probe root policy begun fuel race.poll.before (wait.answer policy false (w.clock - begun)) w
        | .inr how => (.ready (.serverOver how), w)

/-- The wait for a probe beside a server. -/
def awaitProbe (server : Nat) (probe : Probe) (root : Path) (policy : ReadinessPolicy) :
    Operation World (Race ProbeEnd) := fun w =>
  followWait server probe root policy w.clock longestWait none (Wait.start policy) w

/-- A client is started with a pipe for each of its output streams. The pipes are those after the ones
there are. -/
def startClient (r : ClientRequest) (w : World) : Except String Nat × World :=
  let (piped, out) := w.addPipe
  let (piped, err) := piped.addPipe
  let handles := [(0, Handle.null), (1, .pipeOut out), (2, .pipeOut err)]
  match piped.launchFound ⟨r.program.text, r.args, overlay w.environment r.env, r.cwd.text, handles, false⟩ with
  | (.error e, w) => (.error e.message, w)
  | (.ok number, w) => (.ok number, { w with reading := out :: err :: w.reading })

/-- A client that is being watched: its pipes, how far its run is, and what has happened, last first. -/
structure Watched where
  number : Nat
  out : Nat
  err : Nat
  echo : Bool
  progress : Invocation.Progress := {}
  events : List Invocation.Event := []

/-- The capture of a stream. -/
def captureOf (s : Stream) (p : Invocation.Progress) : Capture :=
  match s with
  | .stdout => p.stdout
  | .stderr => p.stderr

/-- Lines that have become complete are shown, each set off by four blanks. -/
def showLines (s : Stream) (before after : Invocation.Progress) (w : World) : World :=
  let fresh := (captureOf s after).lines.drop (captureOf s before).linesRev.length
  fresh.foldl (fun w line => w.express s (Text.Utf8.encode ("    " ++ line ++ "\n"))) w

/-- Something happens to a watched client. -/
def Watched.happen (c : Watched) (e : Invocation.Event) : Watched :=
  { c with progress := c.progress.step e, events := e :: c.events }

/-- The pipe of a stream of a watched client. -/
def Watched.pipe (c : Watched) : Stream → Nat
  | .stdout => c.out
  | .stderr => c.err

/-- What a stream of a watched client holds is taken. A stream with a fault is no longer read. -/
def Watched.readStream (c : Watched) (s : Stream) (w : World) : Watched × World :=
  let pipe := c.pipe s
  let close (w : World) : World := { w with reading := w.reading.filter (· != pipe) }
  if (captureOf s c.progress).isDone then (c, close w)
  else
    match w.readFrom (.pipeIn pipe) with
    | (none, w) => (c, w)
    | (some bytes, w) =>
      let after := c.happen (if bytes.isEmpty then .closed s else .output s bytes)
      let w := if c.echo then w.showLines s c.progress after.progress else w
      (after, if (captureOf s after.progress).isDone then close w else w)

/-- The end of a watched client is noted. -/
def Watched.readEnd (c : Watched) (w : World) : Watched × World :=
  if c.progress.ending.isSome then (c, w)
  else
    match w.collect c.number with
    | (some (.ok e), w) => (c.happen (.exited e), w)
    | (some (.error e), w) => (c.happen (.lost e.message), w)
    | (none, w) => (c, w)

/-- A look at a watched client. -/
def Watched.look (c : Watched) (w : World) : Watched × World :=
  let (c, w) := c.readStream .stdout w
  let (c, w) := c.readStream .stderr w
  c.readEnd w

/-- A watched client is followed to its end, to a deadline, or to a request to end the run. -/
def followClient (limit : Nanos) : Nat → Watched → World → Awaited (List Invocation.Event) × World
  | 0, c, w => (.done (Invocation.Event.deadline :: c.events).reverse, w)
  | fuel + 1, c, w =>
    match w.stop? true with
    | some i => (.interrupted i, { w with signalled := true })
    | none =>
      let (c, w) := c.look w
      let stop (w : World) : World := { w with reading := w.reading.filter fun p => p != c.out && p != c.err }
      if c.progress.isComplete then (.done c.events.reverse, stop w)
      else if limit ≤ w.clock then (.done (Invocation.Event.deadline :: c.events).reverse, stop w)
      else
        match w.tick (some limit) with
        | some w => followClient limit fuel c w
        | none => (.done (Invocation.Event.deadline :: c.events).reverse, stop w)

/-- The pipe that a descriptor of a process leads to. -/
def pipeOf (w : World) (number descriptor : Nat) : Nat :=
  match (w.process? number).bind fun p => p.handle? descriptor with
  | some (.pipeOut pipe) => pipe
  | _ => w.pipes.size

/-- A client is awaited for a time. -/
def awaitClient (number : Nat) (timeout : Nanos) (echo : Bool) : Operation World (List Invocation.Event) := fun w =>
  let c : Watched := { number := number, out := w.pipeOf number 1, err := w.pipeOf number 2, echo := echo }
  (.goesOn (followClient (w.clock + timeout) longestWait c), w)

/-- A client is killed, and has ended at once. -/
def killClient (number : Nat) : Operation World (Option String) := fun w => (.ready none, w.putDown number)

/-- What is seen of a server at once. -/
def viewServer (number : Nat) (w : World) : ServerView × World :=
  match w.collect number with
  | (some (.ok e), w) => (.ended e, w)
  | (some (.error e), w) => (.unknown e.message, w)
  | (none, w) => (.running, w)

/-- A server is awaited to its end. -/
def awaitServer (number : Nat) (w : World) : ServerEnd × World :=
  match w.await false none (fun w => w.collect number) with
  | (.done e, w) => (endOf e, w)
  | (_, w) => (.lost "the server does not end", w)

/-- A server is awaited for the grace period. -/
def awaitGrace (number : Nat) (grace : Nanos) (w : World) : GraceEnd × World :=
  match w.await false (some (w.clock + grace)) (fun w => w.collect number) with
  | (.done (.ok e), w) => (.ended e, w)
  | (.done (.error e), w) => (.unknown e.message, w)
  | (_, w) => (.expired, w)

/-- A signal goes to the group of a server. -/
def signalServer (number : Nat) (g : GroupSignal) (w : World) : World :=
  if w.isGone then w
  else
    w.signalGroup number (match g with
      | .terminate => 15
      | .kill => 9)

/-- The leader of a server's group is killed. -/
def killLeader (number : Nat) (w : World) : Option String × World := (none, w.putDown number)

/-- Who a runner looks at first. It is drawn by the number of its process: the outermost one watches first. -/
def start (w : World) : Start × World := (if w.runner % 2 == 0 then .watchFirst none else .stepsFirst, w)

/-- The handlers for requests to end the run are installed, which never fails. -/
def install (w : World) : Installation × World := (⟨.ctrlC, fun _ => none, false⟩, w.watch)

/-- The host as the world outside a session. -/
def outside : Outside World where
  now w := w.clock
  files w := w.view
  start := start
  install := install
  print text w := w.print text
  log e w := w.log e
  build := build
  spawn := spawn
  awaitProbe := awaitProbe
  awaitDelay := awaitDelay
  startClient := startClient
  awaitClient := awaitClient
  killClient := killClient
  dropClient number w := w.putDown number
  viewServer := viewServer
  awaitServer := awaitServer
  awaitGrace := awaitGrace
  signalGroup := signalServer
  killLeader := killLeader

end World
end Shakedown.Host
