import Shakedown.Host.World

/-!
# Starting programs

A file can be executed if its owner may execute it and it is a program of the system or names an
interpreter in its first line. A name without a separator is looked up on the search path, where
files that may not be executed are passed over.
-/

namespace Shakedown.Host

/-- A program of the system with the name that it was started by and its arguments. -/
structure Image where
  name : String
  own : String
  args : List String
deriving DecidableEq, Repr

/-- The most bytes of a first line that are looked at. -/
def longestFirstLine : Nat := 255

/-- The most interpreters that lead to one another. -/
def deepestInterpreter : Nat := 5

/-- The interpreter and its argument that a file names in its first line. -/
def interpreter? (bytes : List UInt8) : Option (String × Option String) :=
  match bytes with
  | 35 :: 33 :: rest =>
    let isBlank (c : Char) : Bool := c == ' ' || c == '\t'
    let line := (Text.Utf8.decodeLossy ((rest.take longestFirstLine).takeWhile (· != 10))).toList
    let text := (line.dropWhile isBlank).reverse.dropWhile isBlank |>.reverse
    let name := text.takeWhile fun c => !isBlank c
    let argument := (text.drop name.length).dropWhile isBlank
    if name.isEmpty then none
    else some (String.ofList name, if argument.isEmpty then none else some (String.ofList argument))
  | _ => none

namespace Files

/-- What executing a path leads to. -/
def imageFrom (f : Files) (here : Place) : Nat → String → String → List String → Except OsError Image
  | 0, _, _, _ => .error .tooManyLinks
  | fuel + 1, path, own, args => do
    let n ← f.lookUp here path
    if !n.isFile || !n.isExecutable then throw .permission
    match n.content with
    | .program name => return ⟨name, own, args⟩
    | .file bytes =>
      match interpreter? bytes with
      | some (name, argument) => imageFrom f here fuel name name (argument.toList ++ path :: args)
      | none => throw .execFormat
    | _ => throw .permission

/-- What executing a path leads to. -/
def image (f : Files) (here : Place) (path own : String) (args : List String) : Except OsError Image :=
  f.imageFrom here deepestInterpreter path own args

/-- What executing a name in one of some directories leads to; `denied` if it was found where it may
not be executed. -/
def imageIn (f : Files) (here : Place) (name : String) (args : List String) (denied : Bool) :
    List String → Except OsError Image
  | [] => .error (if denied then .permission else .noEntry)
  | dir :: rest =>
    let path := if dir.isEmpty then name else dir ++ "/" ++ name
    match f.image here path name args with
    | .ok i => .ok i
    | .error .permission => imageIn f here name args true rest
    | .error .noEntry | .error .notDirectory => imageIn f here name args denied rest
    | .error e => .error e

/-- The directories of a search path. -/
def searchDirectories (searchPath : Option String) : List String :=
  (searchPath.getD "/bin:/usr/bin").splitOn ":"

/-- The directories that are tried for a name on a search path: those up to the first where it can be executed. -/
def triedDirectories (f : Files) (here : Place) (searchPath : Option String) (name : String) : List String :=
  let dirs := searchDirectories searchPath
  let missing := dirs.takeWhile fun dir => !(f.imageIn here name [] false [dir]).isOk
  dirs.take (missing.length + 1)

/-- What executing a program leads to: a path, or a name on the search path. -/
def imageOf (f : Files) (here : Place) (searchPath : Option String) (program : String) (args : List String) :
    Except OsError Image :=
  if program.isEmpty then .error .noEntry
  else if program.contains '/' then f.image here program program args
  else if longestName < program.utf8ByteSize then .error .nameTooLong
  else f.imageIn here program args false (searchDirectories searchPath)

end Files

/-- A program that a runner starts: with its whole environment, the directory that it is to run
in, its descriptors, and whether it leads a group of its own. -/
structure LaunchRequest where
  program : String
  args : List String
  environment : List (String × String)
  cwd : String
  handles : List (Nat × Handle)
  leadsGroup : Bool := false

/-- Whether a text can be handed to the system. -/
def hasNul (s : String) : Bool := s.toList.any fun c => c.toNat == 0

/-- Variables with some set anew. -/
def overlay (base changes : List (String × String)) : List (String × String) :=
  base.filter (fun kv => (changes.lookup kv.1).isNone) ++ changes

/-- The variables that a program gets for names and values. The system joins both by an equals sign, so a
name ends at the first one, and of two variables of one name the later one counts. -/
def received (variables_ : List (String × String)) : List (String × String) :=
  variables_.foldl (fun all kv =>
    if kv.1.contains '=' then
      let name := kv.1.toList.takeWhile (· != '=')
      overlay all [(String.ofList name, String.ofList (kv.1.toList.drop (name.length + 1)) ++ "=" ++ kv.2)]
    else overlay all [kv]) []

/-- The time that a directory takes that is tried for a name: a microsecond. -/
def directoryTime : Nanos := 1000

/-- The time that it takes to look into a file which is found there and cannot be executed. -/
def fileTime : Nanos := 40000

/-- The time for which the runner looks for a program that it starts. -/
def World.searchTime (w : World) (r : LaunchRequest) : Nanos :=
  if r.program.contains '/' then 0
  else
    match w.files.find w.here r.cwd with
    | .ok place =>
      let tryTime (dir : String) : Nanos :=
        let isThere := w.files.doesExist place (if dir.isEmpty then r.program else dir ++ "/" ++ r.program)
        directoryTime + if isThere then fileTime else 0
      let dirs := w.files.triedDirectories place ((received r.environment).lookup "PATH") r.program
      dirs.foldl (fun time dir => time + tryTime dir) 0
    | .error _ => 0

/-- A program is started by the runner. It begins when its start-up is over. -/
def World.launch (w : World) (r : LaunchRequest) : Except OsError (World × Nat) := do
  if (r.program :: r.cwd :: r.args).any hasNul || r.environment.any (fun kv => hasNul kv.1 || hasNul kv.2) then
    throw .nulInData
  let place ← w.files.findEnterable w.here r.cwd
  let environment := received r.environment
  let i ← w.files.imageOf place (environment.lookup "PATH") r.program r.args
  let group := ((w.process? w.runner).map (·.group)).getD w.runner
  let ignored := ((w.process? w.runner).map (·.ignored)).getD []
  return w.addProcess fun number =>
    { number := number, parent := w.runner, group := if r.leadsGroup then number else group, ignored := ignored,
      machine := .program i.name i.own i.args [], handles := r.handles, here := place,
      environment := environment, wakeAt := w.clock + World.startUp }

end Shakedown.Host
