import Shakedown.Host.Shell.Start
import Shakedown.Host.Utility

/-!
# Running processes

In one tick every process that can do something makes one step, in the order in which they were
started. When none can, the clock goes on to the time at which the next one wakes. `World.await` runs
the host until something is the case, a request to end the run comes, or a deadline has passed.

A process can become a runner as well. Its whole run is one step, in which the host goes on; what such a step does is
a `RunnerProgram`, since a runner needs a host itself.
-/

namespace Shakedown.Host

/-- What a process does that has become a runner with some arguments: the host after its end. -/
class RunnerProgram where
  run : Process → List String → World → World

/-- The time that a tick takes: fifty microseconds. -/
def tickLength : Nanos := 50000

/-- The nanoseconds that digits with a fraction and a unit write. -/
def duration? (text : String) : Option Nanos :=
  let cs := text.toList
  let whole := cs.takeWhile Char.isDigit
  let rest := cs.drop whole.length
  let (fraction, rest) := match rest with
    | '.' :: rest => (rest.takeWhile Char.isDigit, rest.drop (rest.takeWhile Char.isDigit).length)
    | rest => ([], rest)
  let unit := match rest with
    | [] | ['s'] => some 1
    | ['m'] => some 60
    | ['h'] => some 3600
    | ['d'] => some 86400
    | _ => none
  if whole.isEmpty && fraction.isEmpty then none
  else
    let digits := (fraction ++ List.replicate 9 '0').take 9
    let number := ((String.ofList (whole ++ digits)).toNat?).getD 0
    unit.map fun u => number * u

/-- The time that the arguments of a sleep add up to, or the complaint. -/
def sleepTime (own : String) (args : List String) : Except String Nanos :=
  if args.isEmpty then .error s!"{own}: missing operand\nTry '{own} --help' for more information.\n"
  else
    args.foldlM (fun total a =>
      if a == "infinity" || a == "inf" then .ok (total + seconds 1000000000)
      else
        match duration? a with
        | some d => .ok (total + d)
        | none => .error s!"{own}: invalid time interval '{a}'\nTry '{own} --help' for more information.\n") 0

/-- A process writes to a descriptor; it ends if nobody reads a pipe. -/
def World.put (w : World) (p : Process) (descriptor : Nat) (bytes : List UInt8) : World :=
  if bytes.isEmpty then w
  else
    match p.handle? descriptor with
    | none => w
    | some h =>
      match w.writeTo h bytes with
      | .ok w => w
      | .error .brokenPipe => if p.ignored.contains 13 then w else w.finish p.number (.signalled 13)
      | .error _ => w

/-- What a program has led to happens, and it ends. -/
def World.conclude (w : World) (p : Process) (r : Utility.Result) : World :=
  let w := { w with files := r.files.withhold p.mask w.files.nodes.size }
  let w := w.put p 2 r.early
  let w := w.put p 1 r.out
  let w := w.put p 2 r.err
  let w := r.signals.foldl (fun w (target, signal) => w.signal target signal) w
  w.finish p.number (.exited r.status)

/-- A process complains and ends. -/
def World.refuse (w : World) (p : Process) (message : String) (status : Nat) : World :=
  (w.put p 2 (Text.Utf8.encode message)).finish p.number (.exited status)

/-- A process becomes a shell with a script. -/
def World.becomeShell (w : World) (p : Process) (name : String) (args : List String) (bytes : List UInt8)
    (switches : List Char) (lastReplaces : Bool) : World :=
  let script := Shell.script (Text.Utf8.decodeLossy (bytes.filter (· != 0))).toList
  w.setProcess { p with
    machine := .shell (Shell.initial p (w.files.pathOf p.here) name args script.body switches
      (lastReplaces && script.endsOpen)) }

/-- A process reads more of its input: the input so far, or nothing if it has to wait, and whether that
was all. -/
def World.gather (w : World) (p : Process) (input : List UInt8) : Option (List UInt8 × Bool) × World :=
  match p.handle? 0 with
  | none => (some (input, true), w)
  | some h =>
    match w.readFrom h with
    | (none, w) => (none, w)
    | (some [], w) => (some (input, true), w)
    | (some bytes, w) => (some (input ++ bytes, false), w)

/-- A process that is to be a shell. -/
def World.startShell (w : World) (p : Process) (own : String) (args : List String) (input : List UInt8) :
    World × Bool :=
  let b := Shell.beginning own {} args
  match b.source with
  | .nothing message => (w.refuse p (message ++ "\n") 2, true)
  | .listing text => ((w.put p 1 (Text.Utf8.encode text)).finish p.number (.exited 0), true)
  | .text script name rest =>
    (w.becomeShell p name rest (Text.Utf8.encode script) b.switches true, true)
  | .file path rest =>
    match w.files.read p.here path with
    | .ok bytes => (w.becomeShell p path rest bytes b.switches false, true)
    | .error e =>
      let why := Shell.Turn.openingFault "open" "No such file" path e
      (w.refuse p s!"{own}: 0: {why}\n" 2, true)
  | .input rest =>
    match w.gather p input with
    | (none, w) => (w, false)
    | (some (input, true), w) => (w.becomeShell p own rest input b.switches false, true)
    | (some (input, false), w) => (w.setProcess { p with machine := .program "sh" own args input }, true)

/-- The number of the signal that an option of `env` asks to be ignored. -/
def ignoredSignal? (option : String) : Option Nat :=
  let asks := "--ignore-signal="
  if option.startsWith asks then
    let name := (option.drop asks.length).toString
    Signal.number? (if name.startsWith "SIG" then (name.drop 3).toString else name)
  else none

/-- The variables that `env` sets, the signals that it has ignored, and the command that it runs. -/
def environmentCommand (environment : List (String × String)) (ignored : List Nat) : List String →
    List (String × String) × List Nat × List String
  | [] => (environment, ignored, [])
  | "-i" :: rest => environmentCommand [] ignored rest
  | "--" :: rest => (environment, ignored, rest)
  | "-u" :: name :: rest => environmentCommand (environment.filter (·.1 != name)) ignored rest
  | a :: rest =>
    match ignoredSignal? a, Shell.Builtin.assignment a with
    | some signal, _ => environmentCommand environment (signal :: ignored) rest
    | none, (name, some value) => environmentCommand (overlay environment [(name, value)]) ignored rest
    | none, _ => (environment, ignored, a :: rest)

/-- A process becomes another program; `words` are those of a complaint about it. -/
def World.become (w : World) (p : Process) (own words program : String) (args : List String) : World :=
  match w.files.imageOf p.here (p.environment.lookup "PATH") program args with
  | .ok i =>
    w.setProcess { p with machine := .program i.name i.own i.args [], wakeAt := w.clock + World.startUp }
  | .error e =>
    let missing := e == .noEntry || e == .notDirectory
    w.refuse p s!"{own}: {words}'{program}': {e.words}\n" (if missing then 127 else 126)

/-- A process that runs another program in a changed environment, or prints that environment. -/
def World.startInEnvironment (w : World) (p : Process) (own : String) (args : List String) : World :=
  match environmentCommand p.environment p.ignored args with
  | (environment, _, []) =>
    let result : Utility.Result := { files := w.files, out := Utility.variableLines environment }
    w.conclude p result
  | (environment, ignored, program :: args) =>
    w.become { p with environment := environment, ignored := ignored } own "" program args

/-- The command among the arguments of a program that runs it, after its options; letters of `valued` take
the next argument. -/
def commandAfter (valued : String) : List String → List String
  | [] => []
  | "--" :: rest => rest
  | a :: rest =>
    match a.toList with
    | ['-', c] => if valued.contains c then commandAfter valued (rest.drop 1) else commandAfter valued rest
    | '-' :: _ => commandAfter valued rest
    | _ => a :: rest
termination_by args => args.length
decreasing_by all_goals simp only [List.length_drop, List.length_cons]; omega

/-- A process that runs another program apart from something: its signals, its priority, its buffers. -/
def World.startApart (w : World) (p : Process) (own valued : String) (args : List String) : World :=
  match commandAfter valued args with
  | [] => w.refuse p s!"{own}: missing operand\nTry '{own} --help' for more information.\n" 125
  | program :: args => w.become p own "failed to run command " program args

/-- A process that runs another program in a group of its own. The leader of a group leaves that to a
process of its own. -/
def World.startGroup (w : World) (p : Process) (own : String) (args : List String) : World :=
  match commandAfter "" args with
  | [] => w.refuse p s!"{own}: no command specified\nTry '{own} --help' for more information.\n" 1
  | program :: args =>
    if p.group == p.number then
      let (w, child) := w.addProcess fun number => { p with number := number, parent := p.number, group := number }
      let w := match w.process? child with
        | some c => w.become c own "failed to execute " program args
        | none => w
      w.finish p.number (.exited 0)
    else w.become { p with group := p.number } own "failed to execute " program args

/-- The words of bytes: between blanks, with quotes and backslashes taken away. -/
def argumentWords : Nat → List Char → Option (List Char) → List (List Char)
  | 0, _, _ => []
  | _ + 1, [], word => word.toList.map List.reverse
  | fuel + 1, c :: rest, word =>
    if c == ' ' || c == '\t' || c == '\n' then word.toList.map List.reverse ++ argumentWords fuel rest none
    else if c == '\'' || c == '"' then
      let inner := rest.takeWhile (· != c)
      argumentWords fuel (rest.drop (inner.length + 1)) (some (inner.reverse ++ word.getD []))
    else if c == '\\' then argumentWords fuel (rest.drop 1) (some (rest.take 1 ++ word.getD []))
    else argumentWords fuel rest (some (c :: word.getD []))

/-- Items in groups of a size. -/
def inGroups {α : Type} (size : Nat) : Nat → List α → List (List α)
  | 0, _ => []
  | _ + 1, [] => []
  | fuel + 1, items => items.take size :: inGroups size fuel (items.drop size)

/-- The commands that words of the input are given to. -/
def wordCommands (o : Utility.Options) (input : List UInt8) : List (List String) :=
  let command := if o.operands.isEmpty then ["echo"] else o.operands
  let cs := (Text.Utf8.decodeLossy input).toList
  let words := if o.has '0' then ((String.ofList cs).splitOn "\x00").filter (!·.isEmpty)
    else if o.has 'I' || o.has 'L' then ((String.ofList cs).splitOn "\n").filter (!·.isEmpty)
    else (argumentWords (cs.length + 1) cs none).map String.ofList
  match o.value? 'I' with
  | some mark => words.map fun word => command.map fun part => word.intercalate (part.splitOn mark)
  | none =>
    if words.isEmpty then if o.has 'r' then [] else [command]
    else
      let size := max 1 ((((o.value? 'n').or (o.value? 'L')).bind String.toNat?).getD words.length)
      (inGroups size (words.length + 1) words).map fun group => command ++ group

/-- A script that runs commands in turn and tells whether one failed. -/
def scriptOf (commands : List (List String)) : String :=
  let quoted (s : String) : String := "'" ++ "'\\''".intercalate (s.splitOn "'") ++ "'"
  String.join (commands.map fun c =>
    " ".intercalate (c.map quoted) ++ " </dev/null || case $? in 126|127) exit $?;; *) s=123;; esac\n") ++ "exit ${s:-0}\n"

/-- The options of `xargs`. -/
def wordOptions : Utility.OptionTable :=
  { plain := "0rtx", valued := "nILdPs",
    long := [("null", '0'), ("no-run-if-empty", 'r'), ("max-args", 'n'), ("replace", 'I')] }

/-- The options that stand before the first operand, and all from that on. -/
def wordArguments (args : List String) : Except String Utility.Options :=
  let command := commandAfter "nILdPs" args
  (wordOptions.read (args.take (args.length - command.length))).map fun o => { o with operands := command }

/-- The size of a file that is a process's input. -/
def World.inputSize (w : World) (p : Process) : Option Nat :=
  match p.handle? 0 with
  | some (.file d) =>
    match (w.opens[d]?).bind fun f => w.files.node? f.node with
    | some ⟨.file bytes, _⟩ => some bytes.length
    | _ => none
  | _ => none

/-- A process becomes a runner, and runs to its end. -/
def World.startRunner [RunnerProgram] (w : World) (p : Process) (args : List String) : World :=
  let p := { p with machine := .runner false }
  RunnerProgram.run p args { w.setProcess p with files := w.files.addRunner p.number }

/-- One step of a process that runs a program, and whether it did anything. -/
def World.stepProgram [RunnerProgram] (w : World) (p : Process) (name own : String) (args : List String)
    (input : List UInt8) : World × Bool :=
  if name == runnerProgram then (w.startRunner p args, true)
  else match name with
  | "sh" | "dash" => w.startShell p own args input
  | "env" => (w.startInEnvironment p own args, true)
  | "sleep" =>
    match sleepTime own args with
    | .error message => (w.refuse p message 1, true)
    | .ok d => (w.setProcess { p with machine := .leaving (.exited 0), wakeAt := w.clock + d }, true)
  | "nohup" => (w.startApart { p with ignored := 1 :: p.ignored } own "" args, true)
  | "nice" => (w.startApart p own "n" args, true)
  | "stdbuf" => (w.startApart p own "ioe" args, true)
  | "setsid" => (w.startGroup p own args, true)
  | "yes" =>
    let line := Text.Utf8.encode (if args.isEmpty then "y\n" else " ".intercalate args ++ "\n")
    let w := w.put p 1 (List.replicate 64 line).flatten
    (w.modifyProcess p.number fun p => { p with wakeAt := w.clock + millis 1 }, true)
  | _ =>
    let finish (w : World) (input : List UInt8) : World :=
      if name == "xargs" then
        match wordArguments args with
        | .error message => w.refuse p s!"{own}: {message}\nTry '{own} --help' for more information.\n" 1
        | .ok o =>
          let program := o.operands.headD "echo"
          match w.files.imageOf p.here (p.environment.lookup "PATH") program [] with
          | .ok _ => w.becomeShell p own [] (Text.Utf8.encode (scriptOf (wordCommands o input))) [] false
          | .error e => w.refuse p s!"{own}: {program}: {e.words}\n" (if e == .permission then 126 else 127)
      else w.conclude p (Utility.run ⟨w.files, p.here, p.environment, name, own, args, input, w.inputSize p⟩)
    if name == "xargs" || Utility.readsInput name args then
      if Utility.hasEnough name args input then (finish w input, true)
      else
        match w.gather p input with
        | (none, w) => (w, false)
        | (some (input, true), w) => (finish w input, true)
        | (some (input, false), w) => (w.setProcess { p with machine := .program name own args input }, true)
    else (finish w [], true)

/-- One step of a process, and whether it did anything. -/
def World.stepProcess [RunnerProgram] (w : World) (number : Nat) : World × Bool :=
  match w.process? number with
  | none => (w, false)
  | some p =>
    if !p.isRunning || p.held.isSome || decide (w.clock < p.wakeAt) then (w, false)
    else
      match p.machine with
      | .runner _ => (w, false)
      | .leaving ending => (w.finish number ending, true)
      | .program name own args input => w.stepProgram p name own args input
      | .shell s =>
        match Shell.Turn.step ⟨w, p, s⟩ with
        | .goesOn t => (t.commit, true)
        | .waits t => (t.commit, false)
        | .gone w => (w, true)

/-- One step of every process that can make one, and whether any did anything. -/
def World.stepAll [RunnerProgram] (w : World) : World × Bool :=
  (List.range w.processes.size).foldl (fun (w, any) i =>
    let (w, did) := w.stepProcess (firstNumber + i)
    (w, any || did)) (w, false)

/-- The next time at which a process wakes. -/
def World.nextWake (w : World) : Option Nanos :=
  w.processes.foldl (fun next p =>
    if p.isRunning && p.held.isNone && decide (w.clock < p.wakeAt) then
      match next with
      | some t => some (min t p.wakeAt)
      | none => some p.wakeAt
    else next) none

/-- One tick, not past a limit. None if nothing can happen any more. -/
def World.tick [RunnerProgram] (w : World) (limit : Option Nanos) : Option World :=
  let (w, any) := w.stepAll
  if any then some { w with clock := w.clock + tickLength }
  else
    match w.nextWake, limit with
    | some t, some l => some { w with clock := max w.clock (min t l) }
    | some t, none => some { w with clock := t }
    | none, some l => some { w with clock := max w.clock l }
    | none, none => none

/-- The request to end the run that a process has sent to the runner at work. -/
def World.asked? (w : World) : Option Interrupt :=
  match w.process? w.runner with
  | some p => if p.pending.contains 2 then some .ctrlC else if p.pending.contains 15 then some .terminate else none
  | none => none

/-- The request to end the run that is due, if none has been delivered: a process has sent it, or its file exists. -/
def World.due? (w : World) : Option Interrupt :=
  if w.signalled then none
  else
    match w.asked?, w.signalWhen with
    | some i, _ => some i
    | none, some (path, i) => if w.files.doesExist [0] path then some i else none
    | none, none => none

/-- What stops the runner at work where it waits: a request to end the run, if it heeds one, or its own end. -/
def World.stop? (w : World) (heeds : Bool) : Option Interrupt :=
  if w.isGone then some .terminate else if heeds then w.due? else none

/-- How waiting for something ends. -/
inductive Waited (α : Type) where
  | done (result : α)
  | interrupted (by_ : Interrupt)
  | expired

/-- The most ticks of one wait. -/
def longestWait : Nat := 4000000

/-- The host runs until a look at it finds something, and requests to end the run are heeded if
`heeds`. -/
def World.awaitFor [RunnerProgram] {α : Type} (heeds : Bool) (limit : Option Nanos) (look : World → Option α × World) :
    Nat → World → Waited α × World
  | 0, w => (.expired, w)
  | fuel + 1, w =>
    match w.stop? heeds with
    | some i => (.interrupted i, { w with signalled := true })
    | none =>
      match look w with
      | (some a, w) => (.done a, w)
      | (none, w) =>
        if limit.any (· ≤ w.clock) then (.expired, w)
        else
          match w.tick limit with
          | some w => awaitFor heeds limit look fuel w
          | none => (.expired, w)

/-- The host runs until a look at it finds something. -/
def World.await [RunnerProgram] {α : Type} (heeds : Bool) (limit : Option Nanos) (look : World → Option α × World) (w : World) :
    Waited α × World :=
  w.awaitFor heeds limit look longestWait

/-- The host goes on for a time in which the runner does nothing. A part of a tick does not count. -/
def World.pass [RunnerProgram] (w : World) (time : Nanos) : World :=
  let look (w : World) : Option Unit × World := (none, w)
  (w.await false (some (w.clock + time / tickLength * tickLength)) look).2

/-- What the runner at work learns of a child: nothing while that runs, and how it ended then, which is seen with
that. If the ends are left to the system there is no such child any more. -/
def World.collect (w : World) (number : Nat) : Option (Except OsError Ending) × World :=
  match w.endingOf number with
  | some e => if w.areLeft w.runner then (some (.error .noChild), w) else (some (.ok e), w.markSeen number)
  | none => (none, w)

end Shakedown.Host
