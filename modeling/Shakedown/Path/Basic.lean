/-!
# Paths

A path is a text; nothing is normalised when it is built. Its components are the root, a leading
`.`, and the names between separators; repeated separators and other `.` segments are none.
`Path.join` puts a separator between its sides unless the left one is empty or ends in one, and an
absolute right side replaces the left one.
-/

namespace Shakedown

/-- A path of the file system, as written. -/
structure Path where
  text : String
deriving DecidableEq, Repr, Inhabited

namespace Path

instance : ToString Path := ⟨Path.text⟩

/-- The characters of a path. -/
def chars (p : Path) : List Char := p.text.toList

/-- The empty path. -/
def empty : Path := ⟨""⟩

/-- Absolute paths start with a separator. -/
def isAbsolute (p : Path) : Bool := p.chars.head? == some '/'

/-- The characters of a path joined onto the characters of another. -/
def joinChars (base path : List Char) : List Char :=
  if path.head? = some '/' then path
  else if base = [] ∨ base.getLast? = some '/' then base ++ path
  else base ++ '/' :: path

/-- The path `path` seen from `base`. -/
def join (base path : Path) : Path := ⟨String.ofList (joinChars base.chars path.chars)⟩

/-- The path `path` taken against `base` unless it is absolute. -/
def resolveAgainst (base path : Path) : Path :=
  if path.isAbsolute then path else base.join path

/-- What a path starts with: the root, a `.` of its own, or a name. -/
inductive Anchor where
  | root
  | here
  | name
deriving DecidableEq, Repr

/-- The text of an anchor. -/
def Anchor.text : Anchor → String
  | .root => "/"
  | .here => "."
  | .name => ""

/-- The segments between separators; none at all for an empty text. -/
def segmentsFrom (seg : List Char) : List Char → List String
  | [] => [String.ofList seg.reverse]
  | c :: rest => if c = '/' then String.ofList seg.reverse :: segmentsFrom [] rest else segmentsFrom (c :: seg) rest

/-- A path split into its anchor and the segments after it. -/
def split (p : Path) : Anchor × List String :=
  match p.chars with
  | [] => (.name, [])
  | '/' :: rest => (.root, segmentsFrom [] rest)
  | ['.'] => (.here, [])
  | '.' :: '/' :: rest => (.here, "" :: segmentsFrom [] rest)
  | cs => (.name, segmentsFrom [] cs)

/-- Segments that name nothing. -/
def isIdle (segment : String) : Bool := segment == "" || segment == "."

/-- The names and `..` segments of a path, in order. -/
def names (p : Path) : List String := p.split.2.filter fun s => !isIdle s

/-- The number of components: the root or leading `.`, and the names. -/
def componentCount (p : Path) : Nat :=
  (if p.split.1 = .name then 0 else 1) + p.names.length

/-- The segments without idle ones at the end. -/
def dropIdle (segments : List String) : List String := (segments.reverse.dropWhile isIdle).reverse

/-- An anchor and segments as a path. -/
def ofSegments (a : Anchor) (segments : List String) : Path :=
  ⟨a.text ++ "/".intercalate segments⟩

/-- The path without its last component; none for the root and the empty path. -/
def parent (p : Path) : Option Path :=
  let (anchor, segments) := p.split
  match dropIdle segments with
  | [] => if anchor = .here then some empty else none
  | kept => some (ofSegments anchor (dropIdle kept.dropLast))

/-- The last component if it is a name. -/
def fileName (p : Path) : Option String :=
  match (dropIdle p.split.2).getLast? with
  | some ".." => none
  | last => last

/-- The path and what `parent` leads to, at most `fuel` times. -/
def ancestorsFrom : Nat → Path → List Path
  | 0, p => [p]
  | fuel + 1, p =>
    match p.parent with
    | some q => p :: ancestorsFrom fuel q
    | none => [p]

/-- The path itself, its parent, the parent of that, and so on. -/
def ancestors (p : Path) : List Path := ancestorsFrom (p.names.length + 1) p

end Path
end Shakedown
