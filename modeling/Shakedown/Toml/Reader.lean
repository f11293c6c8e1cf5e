/-!
# Reading TOML

A reader takes a value off the front of a text and knows how many bytes it has read, or fails. The
character classes are those of the TOML grammar: line ends are `LF` and `CR LF`, and no control
character but the tab stands in a comment or a string.
-/

namespace Shakedown.Toml

/-- A stretch of the text, in bytes from its start. -/
structure Span where
  start : Nat
  stop : Nat
deriving DecidableEq, Repr, Inhabited

/-- The unread rest of a text and the bytes before it. -/
structure Cursor where
  offset : Nat
  rest : List Char
deriving Repr

/-- A reader of values of a type. -/
abbrev Reader (α : Type) := StateT Cursor Option α

namespace Reader

/-- The reader that always fails. -/
def fail {α : Type} : Reader α := fun _ => none

/-- The next character without reading it. -/
def peek : Reader (Option Char) := do return (← get).rest.head?

/-- The unread rest. -/
def rest : Reader (List Char) := do return (← get).rest

/-- The bytes read so far. -/
def offset : Reader Nat := do return (← get).offset

/-- One character is read. -/
def next : Reader Char := fun c =>
  match c.rest with
  | [] => none
  | x :: rest => some (x, ⟨c.offset + x.utf8Size, rest⟩)

/-- The longest stretch of characters of a class is read. -/
def takeWhile (p : Char → Bool) : Reader (List Char) := fun c =>
  let taken := c.rest.takeWhile p
  some (taken, ⟨c.offset + (String.ofList taken).utf8ByteSize, c.rest.dropWhile p⟩)

/-- The next character is of a class and is read. -/
def one (p : Char → Bool) : Reader Char := do
  let x ← next
  if p x then pure x else fail

/-- The next characters are those of a word and are read. -/
def word : List Char → Reader Unit
  | [] => pure ()
  | x :: more => do
    let _ ← one (· == x)
    word more

/-- Whether the next characters are those of a word. -/
def sees (w : List Char) : Reader Bool := do return w.isPrefixOf (← rest)

/-- A word is read if it is next. -/
def skipIf (w : List Char) : Reader Bool := do
  if ← sees w then
    word w
    pure true
  else pure false

/-- What one reader or, where it fails, another one reads. -/
def orElse {α : Type} (a b : Reader α) : Reader α := fun c => (a c).orElse fun _ => b c

/-- What a reader reads, or nothing read where it fails. -/
def optional {α : Type} (a : Reader α) : Reader (Option α) := orElse (some <$> a) (pure none)

/-- What a reader reads, with the stretch that it read. -/
def spanned {α : Type} (a : Reader α) : Reader (α × Span) := do
  let start ← offset
  let x ← a
  return (x, ⟨start, ← offset⟩)

/-- The loop of `separated`: one or more items, at most as many as the fuel says. -/
def separatedLoop {α : Type} (item : Reader α) (separator : Char) : Nat → Reader (List α)
  | 0 => fail
  | fuel + 1 => do
    let x ← item
    if ← skipIf [separator] then return x :: (← separatedLoop item separator fuel)
    else return [x]

/-- One or more items with a separator between them. -/
def separated {α : Type} (item : Reader α) (separator : Char) : Reader (List α) := do
  separatedLoop item separator ((← rest).length + 1)

end Reader

/-- Spaces and tabs. -/
def isBlank (c : Char) : Bool := c == ' ' || c == '\t'

/-- Characters of comments and literal strings: no control but the tab. -/
def isText (c : Char) : Bool := c == '\t' || (32 ≤ c.toNat && c.toNat != 127)

/-- Characters of bare keys. -/
def isBareKeyChar (c : Char) : Bool := c.isAlphanum || c == '-' || c == '_'

namespace Reader

/-- Spaces and tabs are read. -/
def blanks : Reader Unit := do
  let _ ← takeWhile isBlank

/-- Whether a line end is next; if so it is read. -/
def skipLineEnd : Reader Bool := do
  if ← skipIf ['\n'] then pure true else skipIf ['\r', '\n']

/-- A comment is read if it is next. -/
def comment : Reader Unit := do
  if ← skipIf ['#'] then
    let _ ← takeWhile isText

/-- The rest of a line after its content: blanks, a comment, and the line end or the end of the
text. -/
def restOfLine : Reader Unit := do
  blanks
  comment
  if !(← skipLineEnd) && !(← rest).isEmpty then fail

/-- The loop of `gap`. -/
def gapLoop : Nat → Reader Unit
  | 0 => pure ()
  | fuel + 1 => do
    blanks
    comment
    if ← skipLineEnd then gapLoop fuel

/-- Blanks, comments and line ends are read. -/
def gap : Reader Unit := do gapLoop ((← rest).length + 1)

end Reader
end Shakedown.Toml
