import Shakedown.Host.Condition
import Shakedown.Host.Format
import Shakedown.Host.Shell.Turn

/-!
# Commands of the shell itself

The commands that a shell carries out without a child. Those that POSIX calls special end the shell
when they fail, and assignments before them stay.
-/

namespace Shakedown.Host.Shell.Builtin

open Turn (Next)

/-- The other commands. -/
def regulars : List String :=
  ["[", "alias", "cd", "command", "echo", "false", "getopts", "hash", "jobs", "kill", "local", "printf", "pwd",
    "read", "test", "true", "type", "ulimit", "umask", "unalias", "wait"]

/-- A command at work: the shell, the line, and its own name. A failure of a guarded one is no end of the
shell. -/
structure Call where
  turn : Turn
  line : Nat
  name : String
  isGuarded : Bool := false

namespace Call

/-- The command ends with a status. -/
def done (c : Call) (status : Nat) : Next := c.turn.settle status

/-- The command complains and ends with a status. -/
def refuse (c : Call) (message : String) (status : Nat) : Next :=
  (c.turn.warn c.line s!"{c.name}: {message}").settle status

/-- The command complains and the shell ends, unless the command is guarded. -/
def abort (c : Call) (message : String) : Next :=
  if c.isGuarded then c.refuse message 2 else c.turn.fail c.line s!"{c.name}: {message}" 2

/-- The first of some variables that keeps its value. -/
def locked? (c : Call) (names : List String) : Option String := names.find? c.turn.shell.locked.contains

/-- The command writes to its output and ends with a status. -/
def put (c : Call) (bytes : List UInt8) (status : Nat) : Next :=
  match c.turn.write 1 bytes with
  | .ok t => t.settle status
  | .error .brokenPipe =>
    if c.turn.process.ignored.contains 13 then c.refuse s!"{c.name}: I/O error" 1
    else c.turn.finish (.signalled 13)
  | .error _ => c.refuse s!"{c.name}: I/O error" 1

/-- The command writes a text and succeeds. -/
def say (c : Call) (text : String) : Next := c.put (Text.Utf8.encode text) 0

end Call

/-- The number that an argument writes. -/
def number? (s : String) : Option Nat :=
  if s.isEmpty || !s.toList.all Char.isDigit then none else s.toNat?

/-- The name and the value that an argument assigns. -/
def assignment (s : String) : String × Option String :=
  let cs := s.toList
  let name := cs.takeWhile (· != '=')
  match cs.drop name.length with
  | _ :: value => (String.ofList name, some (String.ofList value))
  | [] => (s, none)

/-- The arguments after options of one letter each, or the letter of the first that is not known. -/
def optionsOf (known : String) : List String → Except Char (List Char × List String)
  | [] => .ok ([], [])
  | a :: rest =>
    if a == "--" then .ok ([], rest)
    else
      match a.toList with
      | '-' :: c :: cs =>
        match (c :: cs).find? fun x => !known.contains x with
        | some x => .error x
        | none => (optionsOf known rest).map fun r => (c :: cs ++ r.1, r.2)
      | _ => .ok ([], a :: rest)

/-- The paths to try for a directory: below those of the search list, if it has any and the directory is
neither absolute nor starts with a dot segment. Only the others are told. -/
def directoriesFor (t : Turn) (target : String) : List (String × Bool) :=
  let isDotted := target == "." || target == ".." || target.startsWith "./" || target.startsWith "../"
  let below := match t.shell.vars.lookup "CDPATH" with
    | some list => if target.startsWith "/" || isDotted then []
      else (list.splitOn ":").map fun dir => if dir.isEmpty then (target, false) else (dir ++ "/" ++ target, true)
    | none => []
  below ++ [(target, false)]

/-- The command that changes the directory. -/
def changeDirectory (c : Call) (args : List String) : Next :=
  match optionsOf "LP" args with
  | .error x => c.refuse s!"Illegal option -{x}" 2
  | .ok (_, operands) =>
    let t := c.turn
    let isBack := operands.head? == some "-"
    let target := match operands with
      | [] => (t.shell.vars.lookup "HOME").getD ""
      | "-" :: _ => (t.shell.vars.lookup "OLDPWD").getD ""
      | a :: _ => a
    if target.isEmpty then
      if isBack then c.say (t.world.files.pathOf t.process.here ++ "\n") else c.done 0
    else
      match (directoriesFor t target).find? fun d => t.world.files.isDirectory t.process.here d.1 with
      | none => c.refuse s!"can't cd to {target}" 2
      | some (path, isTold) =>
        match t.world.files.findEnterable t.process.here path with
        | .error _ => c.refuse s!"can't cd to {target}" 2
        | .ok place =>
          let before := t.world.files.pathOf t.process.here
          let now := t.world.files.pathOf place
          let moved := { t with process := { t.process with here := place } }
          let told := ((moved.assign "OLDPWD" before).assign "PWD" now).exportVariable "OLDPWD"
          if isBack || isTold then ({ c with turn := told }).say (now ++ "\n") else told.settle 0

/-- A value between single quotes; quotes in it stand between double quotes. -/
def quotedValue (s : String) : String :=
  let isQuote (c : Char) : Bool := c.toNat == 39
  let enclosed (run : List Char) : String :=
    let mark := if run.any isQuote then "\"" else "'"
    mark ++ String.ofList run ++ mark
  let runs := s.toList.splitBy fun a b => isQuote a == isQuote b
  (if s.isEmpty || s.startsWith "'" then "''" else "") ++ String.join (runs.map enclosed)

/-- Variables by name, each written by a function. -/
def listVariables (variables_ : List (String × String)) (line : String → String → String) : String :=
  String.join ((variables_.mergeSort fun a b => decide (a.1 ≤ b.1)).map fun kv => line kv.1 kv.2 ++ "\n")

/-- Variables are set and handed on to children. -/
def exportAll (c : Call) (args : List String) : Next :=
  let names := args.filter (· != "-p")
  if names.isEmpty then
    c.say (listVariables c.turn.environment fun k v => "export " ++ k ++ "=" ++ quotedValue v)
  else
    let given := (names.map assignment).filterMap fun a => a.2.map fun _ => a.1
    match names.find? (fun a => !isName (assignment a).1), c.locked? given with
    | some a, _ => c.abort s!"{(assignment a).1}: bad variable name"
    | none, some n => c.abort s!"{n}: is read only"
    | none, none =>
      let t := names.foldl (fun t a =>
        let (name, value) := assignment a
        let t := match value with
          | some v => t.assign name v
          | none => t
        t.exportVariable name) c.turn
      t.settle 0

/-- Variables are set, and keep their values from then on. -/
def lockAll (c : Call) (args : List String) : Next :=
  let names := args.filter (· != "-p")
  let s := c.turn.shell
  if names.isEmpty then
    let lines := (s.locked.mergeSort fun a b => decide (a ≤ b)).map fun n =>
      match s.vars.lookup n with
      | some v => "readonly " ++ n ++ "=" ++ quotedValue v ++ "\n"
      | none => "readonly " ++ n ++ "\n"
    c.say (String.join lines)
  else
    let given := (names.map assignment).filterMap fun a => a.2.map fun _ => a.1
    match names.find? (fun a => !isName (assignment a).1), c.locked? given with
    | some a, _ => c.abort s!"{(assignment a).1}: bad variable name"
    | none, some n => c.abort s!"{n}: is read only"
    | none, none =>
      let t := names.foldl (fun t a =>
        let (name, value) := assignment a
        let t := match value with
          | some v => t.assign name v
          | none => t
        if t.shell.locked.contains name then t
        else { t with shell := { t.shell with locked := name :: t.shell.locked } }) c.turn
      t.settle 0

/-- Variables of a function are set; what they were before comes back at its end. -/
def assignLocally (c : Call) (args : List String) : Next :=
  let t := c.turn
  let isCall (f : Frame) : Bool := match f with
    | .call .. => true
    | _ => false
  match t.shell.frames.find? isCall, c.locked? (args.map fun a => (assignment a).1) with
  | none, _ => c.abort "not in a function"
  | some _, some n => c.abort s!"{n}: is read only"
  | some _, none =>
    let before := args.map fun a => ((assignment a).1, t.shell.vars.lookup (assignment a).1)
    let rec note : List Frame → List Frame
      | .call args place saved :: rest => .call args place (before ++ saved) :: rest
      | f :: rest => f :: note rest
      | [] => []
    let t := t.withFrames (note t.shell.frames)
    let t := args.foldl (fun t a =>
      match assignment a with
      | (name, some v) => t.assign name v
      | (name, none) => t.restoreVariable name none) t
    t.settle 0

/-- Variables or functions are forgotten. -/
def unset (c : Call) (args : List String) : Next :=
  match args with
  | "-f" :: names =>
    let s := c.turn.shell
    ({ c.turn with shell := { s with functions := s.functions.filter fun f => !names.contains f.1 } }).settle 0
  | _ =>
    let names := args.filter (· != "-v")
    match names.find? (fun a => !isName a), c.locked? names with
    | some a, _ => c.abort s!"{a}: bad variable name"
    | none, some n => c.abort s!"{n}: is read only"
    | none, none =>
      let t := names.foldl (fun t name => t.restoreVariable name none) c.turn
      ({ t with shell := { t.shell with exported := t.shell.exported.filter fun n => !names.contains n } }).settle 0

/-- Options of the shell are switched, and its arguments set. -/
def setOptions (c : Call) : List String → Next
  | [] => c.say (listVariables c.turn.shell.vars fun k v => k ++ "=" ++ quotedValue v)
  | args => go c.turn args
where
  /-- The shell with an option switched; there is no terminal to control jobs with. -/
  switch (t : Turn) (on : Bool) (letter : Char) : Turn :=
    if on && letter == 'm' then t.warn c.line s!"{c.name}: can't access tty; job control turned off"
    else { t with shell := { t.shell with switches := switched on letter t.shell.switches } }
  /-- The shell with other arguments. -/
  withArguments (t : Turn) (args : List String) : Turn :=
    { t with shell := { t.shell with args := args, place := {} } }
  /-- Options before the arguments. -/
  go (t : Turn) : List String → Next
    | [] => t.settle 0
    | "--" :: rest => (withArguments t rest).settle 0
    | "-" :: rest =>
      let t := switch (switch t false 'x') false 'v'
      (if rest.isEmpty then t else withArguments t rest).settle 0
    | a :: rest =>
      let on := a.startsWith "-"
      let sign := if on then "-" else "+"
      if on || a.startsWith "+" then
        let letters := a.toList.drop 1
        let asked := toggles [] letters rest
        let t := (lettersAmong asked).foldl (fun t x => switch t on x) t
        match unknownAmong asked with
        | some name => c.abort s!"Illegal option {sign}{name}"
        | none =>
          if asked.contains .listing then ({ c with turn := t }).say (listSwitches on t.shell.switches)
          else go t (rest.drop (letters.count 'o'))
      else (withArguments t (a :: rest)).settle 0
  termination_by args => args.length
  decreasing_by simp only [List.length_drop, List.length_cons]; omega

/-- The first arguments are dropped. -/
def shift (c : Call) (args : List String) : Next :=
  let written := args.headD "1"
  match number? written with
  | none => c.abort s!"Illegal number: {written}"
  | some n =>
    if c.turn.shell.args.length < n then c.abort "can't shift that many"
    else
      ({ c.turn with shell := { c.turn.shell with args := c.turn.shell.args.drop n, place := {} } }).settle 0

/-- What a letter is among the options that a program knows: whether it is known, and whether it takes a
value. A colon at the start is no option. -/
def optionKind? (known : List Char) (letter : Char) : Option Bool :=
  match known with
  | [] => none
  | c :: rest =>
    let takes := rest.head? == some ':'
    if c == letter then some takes
    else optionKind? (if takes then rest.drop 1 else rest) letter
termination_by known.length
decreasing_by split <;> simp only [List.length_drop, List.length_cons] <;> omega

/-- The next option among arguments is told in a variable. -/
def nextOption (c : Call) (args : List String) : Next :=
  match args with
  | known :: name :: given =>
    if !isName name then c.refuse s!"{name}: bad variable name" 2
    else
      let words := if given.isEmpty then c.turn.shell.args else given
      let ⟨index, offset⟩ := c.turn.shell.place
      let current := if index ≤ 1 then [] else
        match offset with
        | some n => ((words[index - 2]?).getD "").toList.drop n
        | none => []
      let isNew := current.isEmpty
      let word := ((words[index - 1]?).getD "").toList
      let index := if isNew && word.head? == some '-' && 1 < word.length then index + 1 else index
      if isNew && (word.head? != some '-' || word.length ≤ 1 || word == ['-', '-']) then
        conclude c.turn name index none "?" 1
      else
        let letters := if isNew then word.drop 1 else current
        match letters with
        | [] => c.done 1
        | letter :: rest => take c.turn known name words index letter rest
  | _ => c.refuse "Usage: getopts optstring var [arg...]" 2
where
  /-- The variables are set, and the place is kept. -/
  conclude (t : Turn) (name : String) (index : Nat) (offset : Option Nat) (letter : String) (status : Nat) : Next :=
    let t := (t.assign "OPTIND" (toString index)).assign name letter
    ({ t with shell := { t.shell with place := ⟨index, offset⟩ } }).settle status
  /-- An option with a letter is told. -/
  take (t : Turn) (known name : String) (words : List String) (index : Nat) (letter : Char) (rest : List Char) : Next :=
    let isSilent := known.startsWith ":"
    let written := String.ofList [letter]
    let length := ((words[index - 2]?).getD "").length
    let offset := some (length - rest.length)
    match optionKind? known.toList letter with
    | none =>
      if isSilent then conclude (t.assign "OPTARG" written) name index offset "?" 0
      else conclude ((t.complain s!"Illegal option -{written}").restoreVariable "OPTARG" none) name index offset "?" 0
    | some false => conclude (t.assign "OPTARG" "") name index offset written 0
    | some true =>
      if !rest.isEmpty then conclude (t.assign "OPTARG" (String.ofList rest)) name index none written 0
      else
        match words[index - 1]? with
        | some value => conclude (t.assign "OPTARG" value) name (index + 1) none written 0
        | none =>
          if isSilent then conclude (t.assign "OPTARG" written) name index offset ":" 0
          else conclude ((t.complain s!"No arg for -{written} option").restoreVariable "OPTARG" none) name index offset
            "?" 0

/-- The bits that a list of changes withholds, or nothing if it is no such list. -/
def maskChanges? (mask : Nat) (changes : List (List Char)) : Option Nat :=
  changes.foldlM (fun mask change =>
    let who := change.takeWhile fun x => "ugoa".contains x
    let places (x : Char) : List Nat := match x with
      | 'u' => [64]
      | 'g' => [8]
      | 'o' => [1]
      | _ => [64, 8, 1]
    let units := if who.isEmpty then [64, 8, 1] else who.flatMap places
    match change.drop who.length with
    | op :: perms =>
      if !perms.all (fun x => "rwx".contains x) then none
      else
        let value := (if perms.contains 'r' then 4 else 0) + (if perms.contains 'w' then 2 else 0) +
          (if perms.contains 'x' then 1 else 0)
        let bits := units.foldl (fun n u => n ||| value * u) 0
        let all := units.foldl (fun n u => n ||| 7 * u) 0
        if op == '+' then some (mask - (mask &&& bits))
        else if op == '-' then some (mask ||| bits)
        else if op == '=' then some ((mask ||| all) - bits)
        else none
    | [] => none) mask

/-- A number of octal digits, four at least. -/
def octalText (n : Nat) : String :=
  let digits := String.ofList (Nat.toDigits 8 n)
  String.ofList (List.replicate (4 - digits.length) '0') ++ digits

/-- The permissions of a class that a mask leaves. -/
def permissionLetters (mask unit : Nat) : String :=
  let left := 7 - mask / unit % 8
  (if left / 4 % 2 == 1 then "r" else "") ++ (if left / 2 % 2 == 1 then "w" else "") ++ (if left % 2 == 1 then "x" else "")

/-- The bits that are withheld from new files are told, or changed. -/
def withhold (c : Call) (args : List String) : Next :=
  let p := c.turn.process
  match optionsOf "S" args with
  | .error x => c.refuse s!"Illegal option -{x}" 2
  | .ok (letters, []) =>
    if letters.isEmpty then c.say (octalText p.mask ++ "\n")
    else
      let u := permissionLetters p.mask 64
      let g := permissionLetters p.mask 8
      let o := permissionLetters p.mask 1
      c.say s!"u={u},g={g},o={o}\n"
  | .ok (_, written :: _) =>
    let cs := written.toList
    if (cs.head?.map Char.isDigit).getD false then
      if cs.all fun x => '0' ≤ x && x ≤ '7' then
        let n := cs.foldl (fun n x => n * 8 + (x.toNat - 48)) 0
        ({ c.turn with process := { p with mask := n % 512 } }).settle 0
      else c.refuse s!"Illegal number: {written}" 2
    else
      match maskChanges? p.mask ((written.splitOn ",").map String.toList) with
      | some n => ({ c.turn with process := { p with mask := n % 512 } }).settle 0
      | none => c.refuse s!"Illegal mode: {written}" 2

/-- The name of a signal, or its number if it has none; the shell has no name for one of them. -/
def signalName (n : Nat) : String :=
  if n == 0 then "EXIT"
  else if n == 16 then toString n
  else (Signal.nameOf? n).getD (toString n)

/-- The number of a signal that the shell has a name for, or as written. -/
def signalNumber (s : String) : Option Nat :=
  (Signal.number? s).filter fun n => n != 16 || (Decimal.digitsUpTo n s.toList).isSome

/-- A signal is caught, ignored, or left to its default. -/
def setTrap (t : Turn) (action : String) (signal : Nat) : Turn :=
  let others := t.shell.traps.filter (·.1 != signal)
  let heard := t.process.ignored.filter (· != signal)
  if action == "-" then
    { t with shell := { t.shell with traps := others }, process := { t.process with ignored := heard } }
  else
    { t with shell := { t.shell with traps := others ++ [(signal, action)] },
             process := { t.process with ignored := if action.isEmpty then signal :: heard else heard } }

/-- What to do on signals. -/
def trap (c : Call) (args : List String) : Next :=
  match args.filter (· != "--") with
  | [] =>
    let known := c.turn.shell.traps.mergeSort fun a b => decide (a.1 ≤ b.1)
    c.say (String.join (known.map fun s => "trap -- " ++ quotedValue s.2 ++ " " ++ signalName s.1 ++ "\n"))
  | first :: rest =>
    let (action, names) := if rest.isEmpty then ("-", [first]) else (first, rest)
    match names.find? fun n => (signalNumber n).isNone with
    | some n => (c.turn.complain s!"trap: {n}: bad trap").settle 1
    | none => ((names.filterMap signalNumber).foldl (fun t s => setTrap t action s) c.turn).settle 0

/-- A signal is sent to one target: a process, or a group if the number is negative. None if there is
no such process. -/
def sendSignal (w : World) (group : Nat) (target : Int) (signal : Nat) : Option World :=
  if 0 < target then
    match w.process? target.toNat with
    | some p => if p.seen then none else some (w.signal target.toNat signal)
    | none => none
  else
    let g := if target = 0 then group else target.natAbs
    if w.processes.any fun p => p.group == g && !p.seen then some (w.signalGroup g signal) else none

/-- The shell after it has sent a signal, which may have been to itself. -/
def afterSignal (number line : Nat) (name : String) (missing : Bool) (w : World) : Next :=
  match w.process? number with
  | some p =>
    match p.machine, p.isRunning with
    | .shell s, true =>
      let c : Call := { turn := ⟨w, p, s⟩, line := line, name := name }
      if missing then c.refuse "No such process\n" 1 else c.done 0
    | _, _ => .gone w
  | none => .gone w

/-- The names of signals are told: of all, or of those that have ended something with a status. -/
def listSignals (c : Call) (args : List String) : Next :=
  match args with
  | [] => c.say (String.join ((List.range Signal.bound).map fun n =>
      (if n == 0 then "0" else signalName n) ++ "\n"))
  | a :: _ =>
    match number? a with
    | none => c.refuse s!"Illegal number: {a}" 2
    | some n =>
      let n := if 128 < n then n - 128 else n
      if 0 < n && n < Signal.bound then c.say (signalName n ++ "\n")
      else c.refuse s!"invalid signal number or exit status: {a}" 2

/-- Signals are sent. -/
def kill (c : Call) (args : List String) : Next :=
  if args.head? == some "-l" then listSignals c (args.drop 1)
  else sendAll c args
where
  /-- A signal is sent to all targets. -/
  sendAll (c : Call) (args : List String) : Next :=
    let (signal, rest) : Except String Nat × List String := match args with
      | "-s" :: s :: rest =>
        (match signalNumber s with
          | some n => .ok n
          | none => .error s!"invalid signal number or name: {s}", rest)
      | a :: rest =>
        if a.startsWith "-" && a != "--" && a.length > 1 then
          (match signalNumber (a.drop 1).toString with
            | some n => .ok n
            | none => .error s!"Illegal option -{(a.drop 1).take 1}", rest)
        else (.ok 15, if a == "--" then rest else a :: rest)
      | [] => (.ok 15, [])
    match signal with
    | .error message => c.refuse message 2
    | .ok n =>
      let targets := (if rest.head? == some "--" then rest.drop 1 else rest).map String.toInt?
      match targets.findIdx? Option.isNone with
      | some i =>
        let written := (rest[i]?).getD ""
        c.refuse s!"Illegal number: {written}" 2
      | none =>
        if targets.isEmpty then
          c.refuse "Usage: kill [-s sigspec | -signum | -sigspec] [pid | job]... or\nkill -l [exitstatus]" 2
        else
          let t := c.turn
          let (w, missing) := (targets.filterMap id).foldl (fun (w, missing) target =>
            match sendSignal w t.process.group target n with
            | some w => (w, missing)
            | none => (w, true)) (t.commit, false)
          afterSignal t.process.number c.line c.name missing w

/-- Children are waited for: all, or some. -/
def wait (c : Call) (args : List String) : Next :=
  let t := c.turn
  match args with
  | [] => .goesOn (t.push [.jobs t.shell.jobs true])
  | names =>
    match names.find? fun n => (number? n).isNone with
    | some n => c.refuse s!"Illegal number: {n}" 2
    | none =>
      let numbers := names.filterMap number?
      if numbers.all fun n => t.shell.jobs.contains n then .goesOn (t.push [.jobs numbers false]) else c.done 127

/-- The fields of a line for a number of variables. The last takes the rest without blanks at its end, or
without its separator if it is the only one. -/
def splitLine (separators : List Char) : Nat → Marked → List String
  | 0, _ => []
  | n + 1, cs =>
    let separates (x : Char × Bool) : Bool := !x.2 && separators.contains x.1
    let isBlank (x : Char × Bool) : Bool := separates x && (x.1 == ' ' || x.1 == '\t' || x.1 == '\n')
    let text := cs.dropWhile isBlank
    let field := text.takeWhile fun x => !separates x
    let rest := (text.drop field.length).dropWhile isBlank
    let rest := if rest.head?.any separates then (rest.drop 1).dropWhile isBlank else rest
    if n = 0 && !rest.isEmpty then [unmark (text.reverse.dropWhile isBlank).reverse]
    else unmark field :: splitLine separators n rest

/-- A line without the backslashes that quote. -/
def unquoteLine : List Char → Marked
  | '\\' :: '\n' :: rest => unquoteLine rest
  | '\\' :: x :: rest => (x, true) :: unquoteLine rest
  | x :: rest => (x, false) :: unquoteLine rest
  | [] => []

/-- Whether a line ends in a backslash that quotes its line feed. -/
def goesOn (line : List UInt8) : Bool := ((line.reverse.takeWhile (· == 92)).length) % 2 == 1

/-- The next line of a handle, joined with those after it if it goes on there; whether the end came. -/
def logicalLine (w : World) (h : Handle) (raw : Bool) : Nat → Option (List UInt8 × Bool × World)
  | 0 => none
  | fuel + 1 =>
    match w.readLine h with
    | none => none
    | some (line, ended, w) =>
      if raw || ended || !goesOn line then some (line, ended, w)
      else (logicalLine w h raw fuel).map fun r => (line ++ 10 :: r.1, r.2)

/-- A line is read into variables. -/
def readLine (c : Call) (args : List String) : Next :=
  let t := c.turn
  let args := if args.head? == some "-p" then args.drop 2 else args
  match optionsOf "r" args with
  | .error x => c.refuse s!"Illegal option -{x}" 2
  | .ok (letters, names) =>
    let raw := !letters.isEmpty
    match names.find? fun n => !isName n with
    | some n => c.refuse s!"{n}: bad variable name" 2
    | none =>
      if names.isEmpty then c.refuse "arg count" 2
      else
        match t.process.handle? 0 with
        | none => c.done 1
        | some h =>
          match logicalLine t.world h raw 4096 with
          | none =>
            let again := [c.name] ++ (if raw then ["-r"] else []) ++ names
            .waits (t.push [.run (.simple c.line [] (again.map fun a => [.literal a.toList true]) []) []])
          | some (bytes, ended, w) =>
            let text := (Text.Utf8.decodeLossy bytes).toList
            let separators := ((t.shell.vars.lookup "IFS").getD " \t\n").toList
            let values := splitLine separators names.length (if raw then mark false text else unquoteLine text)
            let t := { t with world := w }
            match c.locked? names with
            | some n => ({ c with turn := t }).refuse s!"{n}: is read only" 2
            | none =>
              let padded := values ++ List.replicate (names.length - values.length) ""
              let t := (names.zip padded).foldl (fun t nv => t.assign nv.1 nv.2) t
              t.settle (if ended then 1 else 0)

/-- A condition is decided. -/
def test (c : Call) (args : List String) : Next :=
  let body := if c.name == "[" then
      if args.getLast? == some "]" then some args.dropLast else none
    else some args
  match body with
  | none => c.refuse "missing ]" 2
  | some args =>
    match Condition.decide? { files := c.turn.world.files, here := c.turn.process.here } args with
    | .ok b => c.done (if b then 0 else 1)
    | .error (.number s) => c.refuse s!"Illegal number: {s}" 2
    | .error (.unexpected word) =>
      let place := if word.isEmpty then "" else word ++ ": "
      c.refuse s!"{place}unexpected operator" 2
    | .error (.missing op) => c.refuse s!"{op}: argument expected" 2
    | .error .unclosed => c.refuse "closing paren expected" 2

/-- What a fault of a number is called. -/
def numberFaultText : Format.NumberFault → String
  | .noNumber => "expected numeric value"
  | .notWhole => "not completely converted"
  | .outOfRange => "Numerical result out of range"

/-- Text is written by a format. What comes before a directive that is none is written all the same. -/
def printf (c : Call) (args : List String) : Next :=
  let body := if args.head? == some "--" then args.drop 1 else args
  match body with
  | [] => c.refuse "usage: printf format [arg ...]" 2
  | format :: operands =>
    if args.head? != some "--" && format.startsWith "-" && format.length > 1 then
      let letter := (format.drop 1).take 1
      c.refuse s!"Illegal option -{letter}" 2
    else
      let p := Format.printf format operands
      let told : List String := p.bad.map fun b =>
        let text := numberFaultText b.2
        s!"{b.1}: {text}"
      let turn := (told ++ p.fault.toList).foldl (fun t b => t.warn c.line s!"printf: {b}") c.turn
      ({ c with turn := turn }).put p.bytes (if p.fault.isSome then 2 else if p.bad.isEmpty then 0 else 1)

/-- Where commands are found. -/
def findCommand (t : Turn) (name : String) : Option String :=
  if name.contains '/' then if t.world.files.isFile t.process.here name then some name else none
  else
    ((Files.searchDirectories (some ((t.shell.vars.lookup "PATH").getD ""))).map fun dir =>
      if dir.isEmpty then name else dir ++ "/" ++ name).find? fun p => t.world.files.isFile t.process.here p

/-- Whether a name is that of a command of the shell. -/
def isBuiltin (name : String) : Bool := specialCommands.contains name || regulars.contains name

/-- What a name stands for as a command, in words. -/
def described (t : Turn) (name : String) : String × Bool :=
  if reservedWords.contains name then (s!"{name} is a shell keyword\n", true)
  else match t.shell.aliases.lookup name with
    | some (text, _) => (s!"{name} is an alias for {text}\n", true)
    | none =>
      if (t.shell.functions.lookup name).isSome then (s!"{name} is a shell function\n", true)
      else if specialCommands.contains name then (s!"{name} is a special shell builtin\n", true)
      else if isBuiltin name then (s!"{name} is a shell builtin\n", true)
      else match findCommand t name with
        | some path => (s!"{name} is {path}\n", true)
        | none => (s!"{name}: not found\n", false)

/-- What commands are is told. -/
def describe (c : Call) (args : List String) : Next :=
  let all := args.map (described c.turn)
  c.put (Text.Utf8.encode (String.join (all.map (·.1)))) (if all.all (·.2) then 0 else 127)

/-- A name is told as it would be called, if it can be. -/
def locate (c : Call) (name : String) : Next :=
  let t := c.turn
  match t.shell.aliases.lookup name with
  | some (text, _) => c.say ("alias " ++ name ++ "=" ++ quotedValue text ++ "\n")
  | none =>
    if reservedWords.contains name || (t.shell.functions.lookup name).isSome || isBuiltin name then
      c.say (name ++ "\n")
    else match findCommand t name with
      | some path => c.say (path ++ "\n")
      | none => c.done 127

/-- Commands are looked for. -/
def remember (c : Call) (args : List String) : Next :=
  match optionsOf "r" args with
  | .error x => c.refuse s!"Illegal option -{x}" 2
  | .ok (_, names) =>
    let missing := names.filter fun n => !isBuiltin n && (findCommand c.turn n).isNone
    let t := missing.foldl (fun t n => t.warn c.line s!"{c.name}: {n}: not found") c.turn
    t.settle (if missing.isEmpty then 0 else 1)

/-- Aliases are told, or made; one holds from the next line on. -/
def makeAliases (c : Call) (args : List String) : Next :=
  let shown (name text : String) : String := name ++ "=" ++ quotedValue text ++ "\n"
  if args.isEmpty then
    c.say (String.join ((c.turn.shell.aliases.mergeSort fun a b => decide (a.1 ≤ b.1)).map fun a => shown a.1 a.2.1))
  else
    let (t, told, status) := args.foldl (fun (t, told, status) a =>
      match assignment a with
      | (name, some text) =>
        let others := t.shell.aliases.filter (·.1 != name)
        ({ t with shell := { t.shell with aliases := (name, text, c.line) :: others } }, told, status)
      | (name, none) =>
        match t.shell.aliases.lookup name with
        | some (text, _) => (t, told ++ shown name text, status)
        | none => (t.complain s!"{c.name}: {name} not found", told, 1)) (c.turn, "", 0)
    ({ c with turn := t }).put (Text.Utf8.encode told) status

/-- Aliases are forgotten. -/
def dropAliases (c : Call) (args : List String) : Next :=
  let s := c.turn.shell
  if args.head? == some "-a" then ({ c.turn with shell := { s with aliases := [] } }).settle 0
  else
    let missing := args.filter fun a => (s.aliases.lookup a).isNone
    let t := missing.foldl (fun t a => t.complain s!"{c.name}: {a} not found") c.turn
    let left := s.aliases.filter fun a => !args.contains a.1
    ({ t with shell := { t.shell with aliases := left } }).settle (if missing.isEmpty then 0 else 1)

/-- A loop is left or begun anew. -/
def leaveLoop (c : Call) (again : Bool) (args : List String) : Next :=
  let written := args.headD "1"
  match number? written with
  | none => c.abort s!"Illegal number: {written}"
  | some n =>
    let t := c.turn.withStatus 0
    let (own, around) := t.loops
    if own + around = 0 then t.settle 0
    else if own < n && 0 < around then t.leave 0
    else
      match Turn.unwind Frame.isLoop again (min n own) t.shell.frames t with
      | some t => .goesOn t
      | none => .goesOn t

/-- A function or a script file is left, or the shell if there is none. -/
def leaveCall (c : Call) (args : List String) : Next :=
  match args with
  | a :: _ =>
    match number? a with
    | none => c.abort s!"Illegal number: {a}"
    | some n => go (c.turn.withStatus n)
  | [] => go c.turn
where
  /-- The frames above the call are given up. -/
  go (t : Turn) : Next :=
    let isCall (f : Frame) : Bool := match f with
      | .call .. | .source _ => true
      | _ => false
    match Turn.unwind isCall false 1 t.shell.frames t, t.shell.frames.getLast? with
    | some t, _ => .goesOn t
    | none, some (.leave status) => t.finish (.exited status)
    | none, _ => t.leave t.shell.status

/-- The shell is left. -/
def exit (c : Call) (args : List String) : Next :=
  match args with
  | a :: _ =>
    match number? a with
    | some n => c.turn.leave (n % 256)
    | none => c.abort s!"Illegal number: {a}"
  | [] => c.turn.leave c.turn.shell.status

/-- A text is run as a script. -/
def eval (c : Call) (args : List String) : Next :=
  .goesOn ((c.turn.withStatus 0).push [.run (script (" ".intercalate args).toList).body [], .evaluation])

/-- A file is run as a script. -/
def source (c : Call) (args : List String) : Next :=
  match args with
  | [] => c.done 0
  | name :: _ =>
    let path := if name.contains '/' then some name else findCommand c.turn name
    match path.map (c.turn.world.files.read c.turn.process.here) with
    | some (.ok bytes) =>
      .goesOn (c.turn.push [.run (script (Text.Utf8.decodeLossy bytes).toList).body [], .source name])
    | some (.error .permission) => c.abort s!"cannot open {name}: Permission denied"
    | _ => if name.contains '/' then c.abort s!"cannot open {name}: No such file" else c.abort s!"{name}: not found"

/-- The shell becomes a program. -/
def exec (c : Call) (environment : List (String × String)) (args : List String) : Next :=
  match (if args.head? == some "--" then args.drop 1 else args) with
  | [] => c.done 0
  | name :: args =>
    match c.turn.imageOf environment name args with
    | .ok i => c.turn.replace i environment
    | .error (message, status) => c.turn.fail c.line s!"exec: {message}" status

/-- A command of the shell that is carried out; `exec` is not among them. -/
def run (c : Call) (args : List String) : Next :=
  match c.name with
  | ":" | "true" | "jobs" => c.done 0
  | "false" => c.done 1
  | "alias" => makeAliases c args
  | "unalias" => dropAliases c args
  | "getopts" => nextOption c args
  | "hash" => remember c args
  | "times" => c.say "0m0.000000s 0m0.000000s\n0m0.000000s 0m0.000000s\n"
  | "." => source c args
  | "[" | "test" => test c args
  | "break" => leaveLoop c false args
  | "continue" => leaveLoop c true args
  | "cd" => changeDirectory c args
  | "echo" => c.put (Format.echo true args) 0
  | "eval" => eval c args
  | "exit" => exit c args
  | "export" => exportAll c args
  | "kill" => kill c args
  | "local" => assignLocally c args
  | "printf" => printf c args
  | "pwd" => c.say (((c.turn.shell.vars.lookup "PWD").getD (c.turn.world.files.pathOf c.turn.process.here)) ++ "\n")
  | "read" => readLine c args
  | "readonly" => lockAll c args
  | "return" => leaveCall c args
  | "set" => setOptions c args
  | "shift" => shift c args
  | "trap" => trap c args
  | "type" => describe c args
  | "ulimit" => c.say "unlimited\n"
  | "umask" => withhold c args
  | "unset" => unset c args
  | "wait" => wait c args
  | _ => c.done 0

end Shakedown.Host.Shell.Builtin
