import Shakedown.Host.Error
import Shakedown.Path.Basic

/-!
# A tree of files

Nodes are numbered; a directory names nodes. A place is a directory or file with the directories
above it, so that `..` leads back the way that was taken. Permissions are those of the owner.
-/

namespace Shakedown.Host

/-- What a node is: a file, a directory, a program of the system, or the null device. -/
inductive Content where
  | file (bytes : List UInt8)
  | directory (entries : List (String × Nat))
  | program (name : String)
  | null
deriving Repr

/-- A node and its permission bits. -/
structure Node where
  content : Content
  mode : Nat
deriving Repr

/-- A tree of files; node 0 is its root. -/
structure Files where
  nodes : Array Node

/-- A node and the directories above it, the nearest first. -/
abbrev Place := List Nat

namespace Node

/-- Whether the owner may read. -/
def isReadable (n : Node) : Bool := n.mode / 256 % 2 == 1

/-- Whether the owner may write. -/
def isWritable (n : Node) : Bool := n.mode / 128 % 2 == 1

/-- Whether the owner may execute. -/
def isExecutable (n : Node) : Bool := n.mode / 64 % 2 == 1

/-- Whether the node is a directory. -/
def isDirectory (n : Node) : Bool :=
  match n.content with
  | .directory _ => true
  | _ => false

/-- Whether the node is a regular file. -/
def isFile (n : Node) : Bool :=
  match n.content with
  | .file _ | .program _ => true
  | _ => false

end Node

namespace Files

/-- A tree with an empty root that only the system may change. -/
def empty : Files := ⟨#[⟨.directory [], 0o555⟩]⟩

/-- The node of a number. -/
def node? (f : Files) (i : Nat) : Option Node := f.nodes[i]?

/-- The entries of a directory. -/
def entries (f : Files) (i : Nat) : Except OsError (List (String × Nat)) :=
  match f.node? i with
  | some ⟨.directory es, _⟩ => .ok es
  | _ => .error .notDirectory

/-- The entries of a directory that is walked through, which its owner must be allowed to do. -/
def searchable (f : Files) (i : Nat) : Except OsError (List (String × Nat)) :=
  match f.node? i with
  | some ⟨.directory es, mode⟩ => if Node.isExecutable ⟨.directory es, mode⟩ then .ok es else .error .permission
  | _ => .error .notDirectory

/-- The longest name of an entry, in bytes. -/
def longestName : Nat := 255

/-- The longest path, in bytes. -/
def longestPath : Nat := 4095

/-- The place that segments lead to from a place. An empty one asks for a directory. -/
def walk (f : Files) : Place → List String → Except OsError Place
  | here, [] => .ok here
  | here, "" :: rest => do
    let _ ← f.entries (here.headD 0)
    walk f here rest
  | here, segment :: rest => do
    let es ← f.searchable (here.headD 0)
    if segment == "." then walk f here rest
    else if segment == ".." then walk f (if 1 < here.length then here.tail else here) rest
    else if longestName < segment.utf8ByteSize then throw .nameTooLong
    else
      match es.lookup segment with
      | some i => walk f (i :: here) rest
      | none => throw .noEntry

/-- The segments of a path. -/
def segments (path : String) : List String := path.splitOn "/"

/-- Where a path starts: the root if it is absolute. -/
def anchor (here : Place) (path : String) : Place := if path.startsWith "/" then [0] else here

/-- The segments to walk for a path: those that are not empty, and a last empty one if the path ends
in a separator. -/
def steps (path : String) : List String :=
  let named := (segments path).filter (· != "")
  if path.endsWith "/" then named ++ [""] else named

/-- Paths that no system call takes. -/
def checkPath (path : String) : Except OsError Unit := do
  if path.toList.any (·.toNat == 0) then throw .nulInPath
  if path.isEmpty then throw .noEntry
  if longestPath < path.utf8ByteSize then throw .nameTooLong

/-- The place of a path. -/
def find (f : Files) (here : Place) (path : String) : Except OsError Place := do
  checkPath path
  f.walk (anchor here path) (steps path)

/-- The place of a directory that its owner may make the current one. -/
def findEnterable (f : Files) (here : Place) (path : String) : Except OsError Place := do
  let place ← f.find here path
  let _ ← f.searchable (place.headD 0)
  return place

/-- The node of a path. -/
def lookUp (f : Files) (here : Place) (path : String) : Except OsError Node := do
  let place ← f.find here path
  match f.node? (place.headD 0) with
  | some n => return n
  | none => throw .noEntry

/-- Whether a path is a regular file. -/
def isFile (f : Files) (here : Place) (path : String) : Bool :=
  match f.lookUp here path with
  | .ok n => n.isFile
  | .error _ => false

/-- Whether a path is a directory. -/
def isDirectory (f : Files) (here : Place) (path : String) : Bool :=
  match f.lookUp here path with
  | .ok n => n.isDirectory
  | .error _ => false

/-- Whether a path is an executable file. -/
def isExecutable (f : Files) (here : Place) (path : String) : Bool :=
  match f.lookUp here path with
  | .ok n => n.isFile && n.isExecutable
  | .error _ => false

/-- Whether a path names anything. -/
def doesExist (f : Files) (here : Place) (path : String) : Bool :=
  match f.lookUp here path with
  | .ok _ => true
  | .error _ => false

/-- The bytes of a file. -/
def read (f : Files) (here : Place) (path : String) : Except OsError (List UInt8) := do
  let n ← f.lookUp here path
  match n.content with
  | .file bytes => if n.isReadable then return bytes else throw .permission
  | .directory _ => throw .isDirectory
  | .program _ => return [127, 69, 76, 70]
  | .null => return []

/-- The tree with another node in place of one. -/
def setNode (f : Files) (i : Nat) (n : Node) : Files := ⟨f.nodes.setIfInBounds i n⟩

/-- The tree with another content of a node. -/
def setContent (f : Files) (i : Nat) (c : Content) : Files :=
  match f.node? i with
  | some n => f.setNode i { n with content := c }
  | none => f

/-- The tree with a new node that no directory names. -/
def addNode (f : Files) (n : Node) : Files × Nat := (⟨f.nodes.push n⟩, f.nodes.size)

/-- The tree with a new node as an entry of a directory. -/
def addEntry (f : Files) (dir : Nat) (name : String) (n : Node) : Files × Nat :=
  match f.entries dir with
  | .ok es =>
    let (added, i) := f.addNode n
    (added.setContent dir (.directory (es ++ [(name, i)])), i)
  | .error _ => (f, dir)

/-- The directory that holds the last name of a path, and that name. -/
def parentOf (f : Files) (here : Place) (path : String) : Except OsError (Place × String) := do
  checkPath path
  let all := steps path
  match all.getLast? with
  | none => throw .isDirectory
  | some "" => throw .isDirectory
  | some name =>
    let place ← f.walk (anchor here path) all.dropLast
    let _ ← f.entries (place.headD 0)
    return (place, name)

/-- The file of a path for writing, made if it is missing. -/
def openForWriting (f : Files) (here : Place) (path : String) : Except OsError (Files × Nat) := do
  match f.find here path with
  | .ok place =>
    let i := place.headD 0
    match f.node? i with
    | some n =>
      if n.isDirectory then throw .isDirectory
      else if n.isWritable then return (f, i)
      else throw .permission
    | none => throw .noEntry
  | .error .noEntry =>
    let (place, name) ← f.parentOf here path
    let dir := place.headD 0
    if name == "." || name == ".." then throw .isDirectory
    if longestName < name.utf8ByteSize then throw .nameTooLong
    match f.node? dir with
    | some d => if !d.isWritable then throw .permission
    | none => throw .noEntry
    let (added, i) := f.addEntry dir name ⟨.file [], 0o644⟩
    return (added, i)
  | .error e => throw e

/-- The tree with bytes written at an offset of a file. -/
def writeAt (f : Files) (i : Nat) (offset : Nat) (bytes : List UInt8) : Files :=
  match f.node? i with
  | some ⟨.file old, mode⟩ =>
    let before := old.take offset ++ List.replicate (offset - old.length) 0
    f.setNode i ⟨.file (before ++ bytes ++ old.drop (offset + bytes.length)), mode⟩
  | _ => f

/-- The tree with a file emptied. -/
def truncate (f : Files) (i : Nat) : Files :=
  match f.node? i with
  | some ⟨.file _, mode⟩ => f.setNode i ⟨.file [], mode⟩
  | _ => f

/-- The tree with a file of the given bytes at a path. -/
def write (f : Files) (here : Place) (path : String) (bytes : List UInt8) : Except OsError Files := do
  let (f, i) ← f.openForWriting here path
  return (f.truncate i).writeAt i 0 bytes

/-- The length of a file. -/
def size (f : Files) (i : Nat) : Nat :=
  match f.node? i with
  | some ⟨.file bytes, _⟩ => bytes.length
  | _ => 0

/-- The tree with the directories of names made one below the other, from a place on. A file in the
place of the last is there already. -/
def makeBelow (mode : Nat) : Files → Place → List String → Except OsError Files
  | f, _, [] => .ok f
  | f, place, name :: rest => do
    match f.walk place [name] with
    | .ok next =>
      match f.node? (next.headD 0) with
      | some n =>
        if n.isDirectory then makeBelow mode f next rest
        else throw (if rest.isEmpty then .alreadyExists else .notDirectory)
      | none => throw .noEntry
    | .error .noEntry =>
      match f.node? (place.headD 0) with
      | some d => if !d.isWritable && mode != 0o555 then throw .permission
      | none => throw .noEntry
      let (f, i) := f.addEntry (place.headD 0) name ⟨.directory [], mode⟩
      makeBelow mode f (i :: place) rest
    | .error e => throw e

/-- The tree with all directories of a path made. -/
def makeDirectories (f : Files) (here : Place) (path : String) (mode : Nat) : Except OsError Files :=
  f.makeBelow mode (anchor here path) ((segments path).filter fun s => s != "" && s != ".")

/-- The tree with one directory made. -/
def makeDirectory (f : Files) (here : Place) (path : String) : Except OsError Files := do
  match f.find here path with
  | .ok _ => throw .alreadyExists
  | .error .noEntry =>
    let trimmed := String.ofList (path.toList.reverse.dropWhile (· == '/')).reverse
    let (place, name) ← f.parentOf here trimmed
    match f.node? (place.headD 0) with
    | some d => if !d.isWritable then throw .permission
    | none => throw .noEntry
    return (f.addEntry (place.headD 0) name ⟨.directory [], 0o755⟩).1
  | .error e => throw e

/-- The tree without an entry of a directory. -/
def removeEntry (f : Files) (dir : Nat) (name : String) : Files :=
  match f.entries dir with
  | .ok es => f.setContent dir (.directory (es.filter (·.1 != name)))
  | .error _ => f

/-- The tree without a file. -/
def remove (f : Files) (here : Place) (path : String) (directories : Bool) : Except OsError Files := do
  let n ← f.lookUp here path
  if n.isDirectory && !directories then throw .isDirectory
  let (place, name) ← f.parentOf here path
  match f.node? (place.headD 0) with
  | some d => if !d.isWritable then throw .permission
  | none => throw .noEntry
  return f.removeEntry (place.headD 0) name

/-- The tree with bits withheld from the files and directories made since it had `count` nodes. -/
def withhold (f : Files) (mask count : Nat) : Files :=
  (List.range (f.nodes.size - count)).foldl (fun f i =>
    let masked (mode : Nat) : Nat := mode - (mode &&& mask)
    match f.node? (count + i) with
    | some n =>
      if n.mode == 0o644 then f.setNode (count + i) { n with mode := masked 0o666 }
      else if n.mode == 0o755 then f.setNode (count + i) { n with mode := masked 0o777 }
      else f
    | none => f) f

/-- The tree with an entry moved to another path; a directory as the target takes it in. -/
def rename (f : Files) (here : Place) (source target : String) : Except OsError Files := do
  let place ← f.find here source
  let i := place.headD 0
  let (dir, name) ← f.parentOf here source
  let (newDir, newName) ←
    match f.find here target with
    | .ok t =>
      if ((f.node? (t.headD 0)).map Node.isDirectory).getD false then pure (t, name)
      else f.parentOf here target
    | .error _ => f.parentOf here target
  let cleared := (f.removeEntry (dir.headD 0) name).removeEntry (newDir.headD 0) newName
  match cleared.entries (newDir.headD 0) with
  | .ok es => return cleared.setContent (newDir.headD 0) (.directory (es ++ [(newName, i)]))
  | .error e => throw e

/-- The tree with other permission bits of a path. -/
def setMode (f : Files) (here : Place) (path : String) (mode : Nat) : Except OsError Files := do
  let place ← f.find here path
  match f.node? (place.headD 0) with
  | some n => return f.setNode (place.headD 0) { n with mode := mode }
  | none => throw .noEntry

/-- The name under which a directory stands in the one above it, if it was not removed. -/
def nameIn? (f : Files) (dir child : Nat) : Option String :=
  match f.entries dir with
  | .ok es => (es.find? fun e => e.2 == child).map (·.1)
  | .error _ => none

/-- The name under which a directory stands in the one above it. -/
def nameIn (f : Files) (dir child : Nat) : String := (f.nameIn? dir child).getD "?"

/-- Whether every directory of a place still stands in the one above it. -/
def isLinked (f : Files) : Place → Bool
  | child :: dir :: above => (f.nameIn? dir child).isSome && f.isLinked (dir :: above)
  | _ => true

/-- The path of a place. -/
def pathOf (f : Files) : Place → String
  | [] | [_] => "/"
  | [child, top] => "/" ++ f.nameIn top child
  | child :: dir :: above => pathOf f (dir :: above) ++ "/" ++ f.nameIn dir child

end Files
end Shakedown.Host
