import Shakedown.Host.Format
import Shakedown.Host.Utility.Lines

/-!
# Programs over the tree of files

Copying, moving and removing files, making directories and files, setting permissions, and listing.
-/

namespace Shakedown.Host.Utility

/-- A change of the files for each name; each failure is a complaint. -/
def Scope.change (sc : Scope) (names : List String) (complaint : String → OsError → String)
    (f : Files → String → Except OsError Files) : Result :=
  names.foldl (fun (r : Result) n =>
    match f r.files n with
    | .ok files => { r with files := files }
    | .error e => r.complaining (sc.complaint (complaint n e)) 1) (sc.done 0)

/-- The last name of a path. -/
def lastName (path : String) : String := ((Path.mk path).fileName).getD path

/-- A path below a directory. -/
def below (dir name : String) : String := if dir.endsWith "/" then dir ++ name else dir ++ "/" ++ name

/-- The entries of a directory by name, in order. -/
def entryNames (f : Files) (here : Place) (dir : String) : List String :=
  match f.find here dir with
  | .ok place =>
    match f.entries (place.headD 0) with
    | .ok es => (es.map (·.1)).mergeSort fun a b => decide (a ≤ b)
    | .error _ => []
  | .error _ => []

/-! ## Copying and moving -/

/-- The sources and the target among operands, with the directory that takes the sources in, if the target is
one. A complaint stands for operands that do not fit. -/
def sourcesAndTarget (sc : Scope) (o : Options) : Except Result (List String × String × Bool) :=
  match o.value? 't', o.operands.getLast? with
  | some dir, some _ => .ok (o.operands, dir, true)
  | none, some target =>
    match o.operands.dropLast with
    | [] => .error (sc.misuse s!"missing destination file operand after {inQuotes target}" 1)
    | [source] => .ok ([source], target, sc.files.isDirectory sc.here target && !o.has 'T')
    | sources =>
      match sc.files.lookUp sc.here target with
      | .ok n =>
        if n.isDirectory then .ok (sources, target, true)
        else .error (sc.complain s!"target {inQuotes target}: {OsError.notDirectory.words}" 1)
      | .error e => .error (sc.complain s!"target {inQuotes target}: {e.words}" 1)
  | _, none => .error (sc.misuse "missing file operand" 1)

/-- Whether two paths are the same entry. -/
def areSame (f : Files) (here : Place) (a b : String) : Bool :=
  match f.find here a, f.find here b with
  | .ok p, .ok q => p.head? == q.head?
  | _, _ => false

/-- A file or, where `deep`, a directory with all in it is copied to a path. Complaints are texts. -/
def copyTree (here : Place) (deep : Bool) : Nat → Files × List String → String → String → Files × List String
  | 0, s, _, _ => s
  | fuel + 1, (f, complaints), source, target =>
    let fails (message : String) : Files × List String := (f, complaints ++ [message])
    match f.lookUp here source with
    | .error e => fails s!"cannot stat {inQuotes source}: {e.words}"
    | .ok n =>
      if n.isDirectory then
        if !deep then fails s!"-r not specified; omitting directory {inQuotes source}"
        else
          let made := if f.isDirectory here target then .ok f else f.makeDirectory here target
          match made with
          | .error e => fails s!"cannot create directory {inQuotes target}: {e.words}"
          | .ok g =>
            (entryNames f here source).foldl (fun s name =>
              copyTree here deep fuel s (below source name) (below target name)) (g, complaints)
      else if areSame f here source target then fails s!"{inQuotes source} and {inQuotes target} are the same file"
      else if f.isDirectory here target then
        fails s!"cannot overwrite directory {inQuotes target} with non-directory {inQuotes source}"
      else
        match f.read here source with
        | .error e => fails s!"cannot open {inQuotes source} for reading: {e.words}"
        | .ok bytes =>
          let isNew := !f.doesExist here target
          match f.write here target bytes with
          | .error e =>
            fails s!"cannot create regular file {inQuotes target}: {e.words}"
          | .ok g =>
            let g := if isNew then
                match g.setMode here target n.mode with
                | .ok h => h
                | .error _ => g
              else g
            (g, complaints)

/-- The options of `cp`. -/
def copyOptions : OptionTable :=
  { plain := "rRafpvTnudiLP", valued := "t",
    long := [("recursive", 'r'), ("archive", 'a'), ("force", 'f'), ("verbose", 'v'), ("no-target-directory", 'T'),
      ("target-directory", 't'), ("no-clobber", 'n')] }

/-- The program that copies files. -/
def copy (sc : Scope) : Result :=
  sc.withOptions copyOptions 1 fun o =>
    match sourcesAndTarget sc o with
    | .error r => r
    | .ok (sources, target, isInside) =>
      sources.foldl (fun (r : Result) source =>
        let target := if isInside then below target (lastName source) else target
        if o.has 'n' && r.files.doesExist sc.here target then r
        else
          let (files, complaints) := copyTree sc.here (o.has 'r' || o.has 'R' || o.has 'a') 64 (r.files, []) source target
          let r : Result := { r with files := files }
          if complaints.isEmpty then
            if o.has 'v' then { r with out := r.out ++ bytesOf s!"{inQuotes source} -> {inQuotes target}\n" } else r
          else r.complaining (complaints.flatMap sc.complaint) 1) (sc.done 0)

/-- The options of `mv`. -/
def moveOptions : OptionTable :=
  { plain := "fvTniu", valued := "t",
    long := [("force", 'f'), ("verbose", 'v'), ("no-target-directory", 'T'), ("target-directory", 't'),
      ("no-clobber", 'n')] }

/-- The program that moves files. -/
def move (sc : Scope) : Result :=
  sc.withOptions moveOptions 1 fun o =>
    match sourcesAndTarget sc o with
    | .error r => r
    | .ok (sources, target, isInside) =>
      sources.foldl (fun (r : Result) source =>
        let target := if isInside then below target (lastName source) else target
        if o.has 'n' && r.files.doesExist sc.here target then r
        else
          match r.files.lookUp sc.here source with
          | .error e => r.complaining (sc.complaint s!"cannot stat {inQuotes source}: {e.words}") 1
          | .ok n =>
            if areSame r.files sc.here source target then
              r.complaining (sc.complaint s!"{inQuotes source} and {inQuotes target} are the same file") 1
            else if r.files.isDirectory sc.here target && !n.isDirectory then
              r.complaining (sc.complaint
                s!"cannot overwrite directory {inQuotes target} with non-directory {inQuotes source}") 1
            else
              match r.files.rename sc.here source target with
              | .ok files =>
                { r with files := files,
                         out := if o.has 'v' then r.out ++ bytesOf s!"renamed {inQuotes source} -> {inQuotes target}\n"
                           else r.out }
              | .error e =>
                r.complaining (sc.complaint s!"cannot move {inQuotes source} to {inQuotes target}: {e.words}") 1)
        (sc.done 0)

/-! ## Removing -/

/-- The options of `rm`. -/
def removeOptions : OptionTable :=
  { plain := "rRfdvi",
    long := [("recursive", 'r'), ("force", 'f'), ("dir", 'd'), ("verbose", 'v')] }

/-- The program that removes files. -/
def remove (sc : Scope) : Result :=
  sc.withOptions removeOptions 1 fun o =>
    if o.operands.isEmpty then if o.has 'f' then sc.done 0 else sc.misuse "missing operand" 1
    else
      sc.change (o.operands.filter fun n => !o.has 'f' || sc.files.doesExist sc.here n)
        (fun n e => s!"cannot remove {inQuotes n}: {e.words}")
        fun f n => f.remove sc.here n (o.has 'r' || o.has 'R' || (o.has 'd' && (entryNames f sc.here n).isEmpty))

/-- A directory is removed if nothing is in it. -/
def removeEmpty (f : Files) (here : Place) (path : String) : Except OsError Files := do
  let n ← f.lookUp here path
  if !n.isDirectory then throw .notDirectory
  if !(entryNames f here path).isEmpty then throw .notEmpty
  f.remove here path true

/-- The program that removes empty directories. -/
def removeDirectories (sc : Scope) : Result :=
  sc.withOptions { plain := "pv", long := [("parents", 'p'), ("verbose", 'v')] } 1 fun o =>
    if o.operands.isEmpty then sc.misuse "missing operand" 1
    else
      let names := if o.has 'p' then
          o.operands.flatMap fun n => ((Path.mk n).ancestors.map Path.text).filter fun p => !p.isEmpty && p != "/"
        else o.operands
      sc.change names (fun n e => s!"failed to remove {inQuotes n}: {e.words}") fun f n => removeEmpty f sc.here n

/-! ## Making -/

/-- The permission bits that octal digits or a symbolic mode write, from the bits so far. -/
def modeFrom? (isDirectory : Bool) (old : Nat) (text : String) : Option Nat :=
  if !text.isEmpty && text.toList.all Format.isOctal then
    let n := text.toList.foldl (fun n c => n * 8 + (c.toNat - 48)) 0
    if n < 4096 then some n else none
  else
    (text.splitOn ",").foldlM (fun old clause =>
      let who := clause.toList.takeWhile fun c => "ugoa".toList.contains c
      let all := who.isEmpty || who.contains 'a'
      let mask := (if all || who.contains 'u' then 0o700 else 0) + (if all || who.contains 'g' then 0o070 else 0) +
        (if all || who.contains 'o' then 0o007 else 0)
      let umask := if who.isEmpty then 0o022 else 0
      match clause.toList.drop who.length with
      | op :: perms =>
        if !"+-=".toList.contains op || !perms.all (fun c => "rwxX".toList.contains c) then none
        else
          let runs := perms.contains 'x' || (perms.contains 'X' && (isDirectory || old.land 0o111 != 0))
          let bits := (if perms.contains 'r' then 0o444 else 0) + (if perms.contains 'w' then 0o222 else 0) +
            (if runs then 0o111 else 0)
          let chosen := (bits.land mask).land (0o7777 - umask)
          if op == '+' then some (old.lor chosen)
          else if op == '-' then some (old.land (0o7777 - chosen))
          else some ((old.land (0o7777 - mask)).lor chosen)
      | [] => none) old

/-- The program that makes directories. -/
def makeDirectories (sc : Scope) : Result :=
  sc.withOptions { plain := "pv", valued := "m", long := [("parents", 'p'), ("verbose", 'v'), ("mode", 'm')] } 1 fun o =>
    if o.operands.isEmpty then sc.misuse "missing operand" 1
    else
      match (match o.value? 'm' with
          | some m => (modeFrom? true 0o777 m).map some
          | none => some none) with
      | none =>
        let text := (o.value? 'm').getD ""
        sc.complain s!"invalid mode {inQuotes text}" 1
      | some mode =>
        let r := sc.change o.operands (fun n e => s!"cannot create directory {inQuotes n}: {e.words}") fun f n => do
          let g ← if o.has 'p' then f.makeDirectories sc.here n 0o755 else f.makeDirectory sc.here n
          match mode with
          | some m => g.setMode sc.here n m
          | none => return g
        if o.has 'v' then
          { r with out := o.operands.flatMap fun n =>
            if sc.files.doesExist sc.here n then [] else bytesOf s!"{sc.own}: created directory {inQuotes n}\n" }
        else r

/-- The program that makes files or leaves them. -/
def touch (sc : Scope) : Result :=
  sc.withOptions { plain := "acmfh", valued := "drt", long := [("no-create", 'c')] } 1 fun o =>
    if o.operands.isEmpty then sc.misuse "missing file operand" 1
    else
      sc.change o.operands (fun n e => s!"cannot touch {inQuotes n}: {e.words}") fun f n =>
        if f.doesExist sc.here n then .ok f
        else if o.has 'c' then .ok f
        else f.write sc.here n []

/-- The program that sets permissions. -/
def setPermissions (sc : Scope) : Result :=
  let args := sc.args.filter fun a => !(["-R", "-v", "-f", "-c", "--"].contains a)
  match args with
  | [] => sc.misuse "missing operand" 1
  | [mode] => sc.misuse s!"missing operand after {inQuotes mode}" 1
  | mode :: names =>
    if (modeFrom? false 0 mode).isNone then sc.misuse s!"invalid mode: {inQuotes mode}" 1
    else
      sc.change names (fun n e => s!"cannot access {inQuotes n}: {e.words}") fun f n => do
        let node ← f.lookUp sc.here n
        f.setMode sc.here n ((modeFrom? node.isDirectory node.mode mode).getD node.mode)

/-! ## Listing -/

/-- The options of `ls`. -/
def listOptions : OptionTable :=
  { plain := "1aAdpFrRtCcfghiklmnoqsuxBGHLNQSUXZ",
    long := [("all", 'a'), ("almost-all", 'A'), ("directory", 'd'), ("reverse", 'r'), ("recursive", 'R'),
      ("classify", 'F')] }

/-- The program that lists directories. -/
def list (sc : Scope) : Result :=
  sc.withOptions listOptions 2 fun o =>
    let ordered (names : List String) : List String := if o.has 'r' then names.reverse else names
    let marked (path shown : String) : List UInt8 :=
      let sign := match sc.files.lookUp sc.here path with
        | .ok n =>
          if n.isDirectory && (o.has 'p' || o.has 'F') then "/"
          else if o.has 'F' && n.isExecutable then "*" else ""
        | .error _ => ""
      bytesOf (shown ++ sign ++ "\n")
    let inside (dir : String) : List String :=
      let all := (if o.has 'a' then [".", ".."] else []) ++ entryNames sc.files sc.here dir
      ordered (all.filter fun n => o.has 'a' || o.has 'A' || !n.startsWith ".")
    let names := ordered ((if o.operands.isEmpty then ["."] else o.operands).mergeSort fun a b => decide (a ≤ b))
    let complaints := names.filterMap fun n => match sc.files.lookUp sc.here n with
      | .ok _ => none
      | .error e => some (sc.complaint s!"cannot access {inQuotes n}: {e.words}")
    let found := names.filter fun n => sc.files.doesExist sc.here n
    let dirs := if o.has 'd' then [] else found.filter fun n => sc.files.isDirectory sc.here n
    let plain := found.filter fun n => !dirs.contains n
    let titles := 1 < names.length
    let block (dir : String) : List UInt8 :=
      (if titles then bytesOf s!"{dir}:\n" else []) ++ (inside dir).flatMap fun n => marked (below dir n) n
    let blocks := (if plain.isEmpty then [] else [plain.flatMap fun n => marked n n]) ++ dirs.map block
    { files := sc.files, early := complaints.flatten, out := [10].intercalate blocks, status := if complaints.isEmpty then 0 else 2 }

end Shakedown.Host.Utility
