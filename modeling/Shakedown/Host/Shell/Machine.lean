import Shakedown.Host.Shell.Builtin

/-!
# The shell machine

A shell does what its innermost frame says: it begins a command, which may leave frames for later, or
it looks whether what it waits for is there. `Turn.step` is one step.
-/

namespace Shakedown.Host.Shell.Turn

/-- The search path that every system has. -/
def systemSearchPath : String := "/usr/sbin:/usr/bin:/sbin:/bin"

/-- The line of a command, for complaints. -/
def lineOf : Command → Nat
  | .simple line _ _ _ => line
  | _ => 1

/-- Something expanded, with the outputs that are known; the variables change with it. -/
def expand {α : Type} (t : Turn) (outputs : List (String × Nat)) (e : Expanding α) : Except Halt (α × Turn) :=
  (e.run ⟨t.shell.vars, outputs.map (·.1)⟩).map fun (a, p) => (a, t.withVariables p.vars)

/-- A command whose expansion has stopped: the script whose output is needed is run in a child, and
the command is begun anew after it. -/
def halt (t : Turn) (c : Command) (outputs : List (String × Nat)) : Halt → Next
  | .bad message => t.fail (lineOf c) message 2
  | .needs text line =>
    let (w, pipe) := t.world.addPipe
    let t := { t with world := w }
    let child := t.process.setHandle 1 (some (.pipeOut pipe))
    let (t, number) := t.fork child.handles [] [.run (scriptFrom line text).body []]
    let t := { t with world := { t.world with reading := pipe :: t.world.reading } }
    .goesOn (t.push [.substitution number pipe [] c outputs])

/-- The targets of redirections. -/
def expandTargets (sc : Scope) : List Redirect → Expanding (List (Redirect × String))
  | [] => pure []
  | r :: rest => do
    let target ← expandText sc r.target
    return (r, unmark target) :: (← expandTargets sc rest)

/-- The values of assignments; each sees those before it. -/
def expandValues (sc : Scope) : List (String × Word) → Expanding (List (String × String))
  | [] => pure []
  | (name, w) :: rest => do
    let value := unmark (← expandText { sc with isAssigning := true } w)
    if sc.locked.contains name then throw (.bad s!"{name}: is read only")
    modify fun p => { p with vars := setVariable name value p.vars }
    return (name, value) :: (← expandValues sc rest)

/-- Redirections of a compound command around what it leaves to do. -/
def within (t : Turn) (c : Command) (outputs : List (String × Nat)) (redirects : List Redirect)
    (go : Turn → Next) : Next :=
  if redirects.isEmpty then go t
  else
    match t.expand outputs (expandTargets t.scope redirects) with
    | .error h => t.halt c outputs h
    | .ok (targets, t) =>
      match t.redirectAll [] targets with
      | (t, saved, none) => go (t.push [.restore saved])
      | (t, saved, some message) => ((t.restore saved).warn (lineOf c) message).settle 2

/-- A program is run: in place of the shell if that has nothing more to do, else in a child. -/
def runProgram (t : Turn) (line : Nat) (mayReplace : Bool) (environment : List (String × String))
    (name : String) (args : List String) : Next :=
  match t.imageOf environment name args with
  | .error (message, status) => (t.warn line message).settle status
  | .ok i =>
    if mayReplace then t.replace i environment
    else
      let (t, number) := t.start i environment
      .goesOn (t.push [.foreground number])

/-- A function is called. -/
def call (t : Turn) (body : Command) (args : List String) : Next :=
  let before := t.shell.args
  let place := t.shell.place
  let t := { t with shell := { t.shell with args := args, place := {} } }
  .goesOn (t.push [.run body [], .call before place []])

/-- A command that is no function: one of the shell itself, or a program. `command` lets a name stand for
no function, or tells what it stands for. -/
def runFound (t : Turn) (line : Nat) (mayReplace : Bool) (environment : List (String × String))
    (undone : List (String × Option String)) (name : String) (args : List String) : Next :=
  let plain (isGuarded : Bool) (environment : List (String × String)) (name : String) (args : List String) : Next :=
    if isGuarded && name == "exec" then Builtin.exec ⟨t, line, name, true⟩ environment args
    else if Builtin.isBuiltin name then
      let t := if undone.isEmpty then t else t.push [.assigned (undone, t.shell.exported)]
      Builtin.run ⟨t, line, name, isGuarded⟩ args
    else
      let t := undone.foldl (fun t s => t.restoreVariable s.1 s.2) t
      t.runProgram line mayReplace environment name args
  if name != "command" then plain false environment name args
  else
    match Builtin.optionsOf "pvV" args with
    | .error x => Builtin.Call.refuse ⟨t, line, name, false⟩ s!"Illegal option -{x}" 2
    | .ok (_, []) => t.settle 0
    | .ok (letters, name :: args) =>
      if letters.contains 'V' then Builtin.describe ⟨t, line, "command", false⟩ [name]
      else if letters.contains 'v' then Builtin.locate ⟨t, line, "command", false⟩ name
      else
        let found := if letters.contains 'p' then overlay environment [("PATH", systemSearchPath)] else environment
        plain true found name args

/-- Whether the shell may become the last program that it runs. -/
def mayReplace (t : Turn) : Bool :=
  t.shell.lastReplaces && t.shell.frames.isEmpty && t.shell.traps.isEmpty

/-- A simple command with everything expanded. -/
def runSimple (t : Turn) (line : Nat) (assignments : List (String × String)) (targets : List (Redirect × String))
    (before : List (String × String)) (lastStatus : Nat) : List String → Next
  | [] =>
    match t.redirectAll [] targets with
    | (t, saved, none) => (t.restore saved).settle lastStatus
    | (t, saved, some message) => ((t.restore saved).warn line message).settle 2
  | name :: args =>
    let isSpecial := specialCommands.contains name
    let mayReplace := t.mayReplace
    match t.redirectAll [] targets with
    | (t, saved, some message) =>
      let t := (t.restore saved).warn line message
      if isSpecial then t.leave 2 else t.settle 2
    | (t, saved, none) =>
      let environment := overlay t.environment assignments
      if name == "exec" then
        Builtin.exec { turn := t, line := line, name := name } environment args
      else if isSpecial then
        let t := if saved.isEmpty then t else t.push [.restore saved]
        Builtin.run { turn := t, line := line, name := name } args
      else
        let undone := assignments.map fun kv => (kv.1, before.lookup kv.1)
        let t := if saved.isEmpty then t else t.push [.restore saved]
        match t.shell.functions.lookup name with
        | some body =>
          let t := if undone.isEmpty then t else t.push [.assigned (undone, t.shell.exported)]
          call t body args
        | none =>
          t.runFound line mayReplace environment undone name args

/-- A command is told before it is carried out, if the shell is to do so. -/
def trace (t : Turn) (assignments words : List String) : Turn :=
  if t.shell.switches.contains 'x' && !(assignments ++ words).isEmpty then
    t.complain (" ".intercalate ("+" :: assignments ++ words))
  else t

/-- A simple command with an alias in place of its first word, if that is one of an earlier line. An alias
is not replaced again in its own text; one that ends in a blank lets the next word be one, too. -/
def withoutAlias (aliases : List (String × String × Nat)) :
    Nat → Nat → List (String × Word) → List Word → List Redirect →
      List (String × Word) × List Word × List Redirect
  | 0, _, assignments, words, redirects => (assignments, words, redirects)
  | fuel + 1, line, assignments, words, redirects =>
    match ((words.head?).bind plainText?).bind fun name => (aliases.lookup name).map fun a => (name, a) with
    | none => (assignments, words, redirects)
    | some (name, text, since) =>
      if line ≤ since then (assignments, words, redirects)
      else
        match (Shell.script text.toList).body with
        | .simple _ more first others =>
          let isOpen := text.endsWith " " || text.endsWith "\t"
          let (_, rest, later) := if isOpen then withoutAlias aliases fuel line [] (words.drop 1) []
            else ([], words.drop 1, [])
          withoutAlias (aliases.filter (·.1 != name)) fuel line (assignments ++ more) (first ++ rest)
            (others ++ redirects ++ later)
        | _ => (assignments, words, redirects)

/-- A simple command. -/
def beginSimple (t : Turn) (c : Command) (outputs : List (String × Nat)) (line : Nat)
    (assignments : List (String × Word)) (words : List Word) (redirects : List Redirect) : Next :=
  let (assignments, words, redirects) :=
    if t.shell.aliases.isEmpty then (assignments, words, redirects)
    else withoutAlias t.shell.aliases 8 line assignments words redirects
  let before := t.shell.vars
  let all : Expanding (List String × List (Redirect × String) × List (String × String)) := do
    let words ← expandArguments t.scope [] words
    let targets ← expandTargets t.scope redirects
    return (words, targets, ← expandValues t.scope assignments)
  match t.expand outputs all with
  | .error h => t.halt c outputs h
  | .ok ((words, targets, values), t) =>
    let lastStatus := (outputs.getLast?.map (·.2)).getD 0
    let t := if words.isEmpty then values.foldl (fun t kv => t.noteAssigned kv.1 kv.2) t else t
    (t.trace (values.map fun kv => s!"{kv.1}={kv.2}") words).runSimple line values targets before lastStatus words

/-- The stages of a pipeline, each in a child, from the one that reads a pipe on. -/
def startStages (t : Turn) (source : Option Nat) : List Command → Turn × List Nat
  | [] => (t, [])
  | c :: rest =>
    let input (p : Process) : Process := match source with
      | some pipe => p.setHandle 0 (some (.pipeIn pipe))
      | none => p
    match rest with
    | [] =>
      let (t, number) := t.fork (input t.process).handles [] [.run c []]
      (t, [number])
    | _ :: _ =>
      let (w, pipe) := t.world.addPipe
      let t := { t with world := { w with reading := pipe :: w.reading } }
      let child := (input t.process).setHandle 1 (some (.pipeOut pipe))
      let (t, number) := t.fork child.handles [] [.run c []]
      let (t, numbers) := startStages t (some pipe) rest
      let t := { t with world := { t.world with reading := t.world.reading.filter (· != pipe) } }
      (t, number :: numbers)

/-- Whether one of some patterns matches a text. -/
def matchesOne (sc : Scope) (subject : String) : List Word → Expanding Bool
  | [] => pure false
  | w :: rest => do
    let p ← expandText sc w
    if matchesAll (pattern p) subject.toList then return true else matchesOne sc subject rest

/-- The clause of a selection that matches. -/
def chosen (sc : Scope) (subject : String) :
    List (List Word × Option Command) → Expanding (Option (Option Command))
  | [] => pure none
  | (ps, body) :: rest => do
    if ← matchesOne sc subject ps then return some body else chosen sc subject rest

/-- The name of the command that evaluates a text now, as complaints about the text begin with. -/
def nowEvaluating (t : Turn) : String :=
  let named (f : Frame) : Option String := match f with
    | .source name => some s!"{name}: "
    | .evaluation => some "eval: "
    | .call .. => some ""
    | _ => none
  (t.shell.frames.findSome? named).getD ""

/-- A command is begun. -/
def begin_ (t : Turn) (c : Command) (outputs : List (String × Nat)) : Next :=
  match c with
  | .simple line assignments words redirects => t.beginSimple c outputs line assignments words redirects
  | .pipeline negated stages =>
    let t := if negated then t.push [.invert] else t
    match stages with
    | [one] => .goesOn (t.push [.run one []])
    | _ =>
      let (t, numbers) := t.startStages none stages
      .goesOn (t.push [.stages numbers])
  | .both first second => .goesOn (t.push [.run first [], .onSuccess second])
  | .either first second => .goesOn (t.push [.run first [], .onFailure second])
  | .sequence first second => .goesOn (t.push [.run first [], .run second []])
  | .background body =>
    let (t, number) := t.fork (t.process.setHandle 0 (some .null)).handles [2, 3] [.run body []]
    .goesOn ({ t with shell := { t.shell with lastJob := some number, jobs := t.shell.jobs ++ [number] } }.withStatus 0)
  | .subshell body redirects =>
    let (t, number) := t.fork t.process.handles [] [.run (if redirects.isEmpty then body else .group body redirects) []]
    .goesOn (t.push [.stages [number]])
  | .group body redirects => t.within c outputs redirects fun t => .goesOn (t.push [.run body []])
  | .branch test yes no redirects =>
    t.within c outputs redirects fun t => .goesOn (t.push [.run test [], .branch yes no])
  | .loop isUntil test body redirects =>
    t.within c outputs redirects fun t => .goesOn (t.push [.run test [], .loopTest isUntil test body 0])
  | .each name items body redirects =>
    match t.expand outputs (match items with
      | some ws => expandWords t.scope ws
      | none => pure t.shell.args) with
    | .error h => t.halt c outputs h
    | .ok (values, t) =>
      t.within c outputs redirects fun t => .goesOn ((t.withStatus 0).push [.each name values body])
  | .select subject clauses redirects =>
    let all : Expanding (Option (Option Command)) := do
      chosen t.scope (unmark (← expandText t.scope subject)) clauses
    match t.expand outputs all with
    | .error h => t.halt c outputs h
    | .ok (body, t) =>
      match body with
      | some (some body) => t.within c outputs redirects fun t => .goesOn (t.push [.run body []])
      | _ => .goesOn (t.withStatus 0)
  | .define name body =>
    let others := t.shell.functions.filter (·.1 != name)
    .goesOn ({ t with shell := { t.shell with functions := (name, body) :: others } }.withStatus 0)
  | .malformed fault => t.fail fault.line (t.nowEvaluating ++ fault.message) 2

/-- The output of a substitution without the line feeds at its end. NUL bytes are dropped. -/
def outputText (bytes : List UInt8) : String :=
  Text.Utf8.decodeLossy ((bytes.filter (· != 0)).reverse.dropWhile (· == 10)).reverse

/-- The statuses of children that have all ended. -/
def statuses? (t : Turn) (numbers : List Nat) : Option (List Ending) := numbers.mapM t.world.endingOf

/-- A substitution: what has been written is taken, and at the end the command goes on. -/
def stepSubstitution (t : Turn) (number pipe : Nat) (read : List UInt8) (c : Command)
    (outputs : List (String × Nat)) (rest : List Frame) : Next :=
  match t.world.readFrom (.pipeIn pipe) with
  | (none, _) => .waits t
  | (some [], w) =>
    match w.endingOf number with
    | none => .waits t
    | some ending =>
      let w := { w with reading := w.reading.filter (· != pipe) }
      let (t, status) := ({ t with world := w }.withFrames rest).reap number ending true
      .goesOn ((t.push [.run c (outputs ++ [(outputText read, status)])]))
  | (some bytes, w) =>
    .goesOn ({ t with world := w }.withFrames (.substitution number pipe (read ++ bytes) c outputs :: rest))

/-- Children that the shell has waited for. -/
def stepJobs (t : Turn) (numbers : List Nat) (isAll : Bool) (rest : List Frame) : Next :=
  match t.statuses? numbers with
  | none => .waits t
  | some endings =>
    let (t, status) := (numbers.zip endings).foldl (fun (t, _) (n, e) => t.reap n e (!isAll)) (t.withFrames rest, 0)
    let t := { t with shell := { t.shell with jobs := t.shell.jobs.filter fun n => !numbers.contains n } }
    t.settle (if isAll then 0 else status)

/-- What the innermost frame says is done. -/
def stepFrame (t : Turn) (f : Frame) (rest : List Frame) : Next :=
  let next := t.withFrames rest
  match f with
  | .run c outputs => if t.shell.switches.contains 'n' && !c.isMalformed then .goesOn next else next.begin_ c outputs
  | .onSuccess c => .goesOn (if t.shell.status = 0 then next.push [.run c []] else next)
  | .onFailure c => .goesOn (if t.shell.status = 0 then next else next.push [.run c []])
  | .invert => .goesOn (next.withStatus (if t.shell.status = 0 then 1 else 0))
  | .branch yes no =>
    if t.shell.status = 0 then .goesOn (next.push [.run yes []])
    else
      match no with
      | some no => .goesOn (next.push [.run no []])
      | none => .goesOn (next.withStatus 0)
  | .loopTest isUntil test body last =>
    if (t.shell.status == 0) != isUntil then .goesOn (next.push [.run body [], .loopBody isUntil test body])
    else .goesOn (next.withStatus last)
  | .loopBody isUntil test body =>
    .goesOn (next.push [.run test [], .loopTest isUntil test body t.shell.status])
  | .each name items body =>
    match items with
    | [] => .goesOn next
    | value :: items =>
      if t.shell.locked.contains name then next.fail 1 s!"{name}: is read only" 2
      else .goesOn ((next.assign name value).push [.run body [], .each name items body])
  | .restore .. | .assigned .. | .call .. | .source _ | .evaluation =>
    .goesOn (next.undo f)
  | .foreground number =>
    match t.world.endingOf number with
    | none => .waits t
    | some ending =>
      let (t, status) := next.reap number ending true
      t.settle status
  | .stages numbers =>
    match t.statuses? numbers with
    | none => .waits t
    | some endings =>
      let (t, status) := (numbers.zip endings).foldl (fun (t, _) (n, e) => t.reap n e true) (next, 0)
      t.settle status
  | .substitution number pipe read c outputs => t.stepSubstitution number pipe read c outputs rest
  | .jobs numbers isAll => t.stepJobs numbers isAll rest
  | .trap status => .goesOn (next.withStatus status)
  | .leave status => t.finish (.exited status)

/-- Whether the shell waits for a child that it runs in the foreground, so that what signals ask for
comes later. -/
def isBusy (t : Turn) : Bool :=
  match t.shell.frames.head? with
  | some (.foreground _) | some (.stages _) | some (.substitution ..) => true
  | _ => false

/-- What a caught signal asks for is begun. A wait for children is over with it. -/
def beginTrap (t : Turn) (signal : Nat) (later : List Nat) : Next :=
  let t := { t with process := { t.process with pending := later } }
  match t.shell.traps.lookup signal with
  | none => .goesOn t
  | some script =>
    let c := (Shell.script script.toList).body
    match t.shell.frames with
    | .jobs .. :: rest => .goesOn ((t.withFrames rest).push [.run c [], .trap (128 + signal)])
    | _ => .goesOn (t.push [.run c [], .trap t.shell.status])

/-- One step of a shell. -/
def step (t : Turn) : Next :=
  match t.process.pending with
  | signal :: later => if t.isBusy then stepFrames t else t.beginTrap signal later
  | [] => stepFrames t
where
  /-- What is left to do is done, or the shell ends. -/
  stepFrames (t : Turn) : Next :=
    match t.shell.frames with
    | [] => t.leave t.shell.status
    | f :: rest => t.stepFrame f rest

end Shakedown.Host.Shell.Turn
