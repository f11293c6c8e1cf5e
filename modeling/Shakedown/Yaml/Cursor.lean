/-!
# Reading positions

A cursor is the unread rest of a YAML text with the position of its first character. The character
classes are those of the YAML syntax: blanks, line breaks (`CR LF` is one), and word characters.
-/

namespace Shakedown.Yaml

/-- A position: bytes before it, line and column, all counted from zero. The column counts characters. -/
structure Mark where
  index : Nat
  line : Nat
  column : Nat
deriving DecidableEq, Repr, Inhabited

/-- The position of the first character. -/
def Mark.zero : Mark := ⟨0, 0, 0⟩

/-- Where a text stops being well-formed YAML. -/
abbrev Malformed := Mark

/-- Characters that may stand in a YAML text. -/
def isAllowed (c : Char) : Bool :=
  let n := c.toNat
  n == 0x09 || n == 0x0A || n == 0x0D || (0x20 ≤ n && n ≤ 0x7E) || n == 0x85 ||
    (0xA0 ≤ n && n ≤ 0xD7FF) || (0xE000 ≤ n && n ≤ 0xFFFD) || (0x10000 ≤ n && n ≤ 0x10FFFF)

/-- Spaces and tabs. -/
def isBlank (c : Char) : Bool := c == ' ' || c == '\t'

/-- Characters that break a line. -/
def isBreak (c : Char) : Bool :=
  c == '\n' || c == '\r' || c == '\u0085' || c == '\u2028' || c == '\u2029'

/-- Letters, digits, the hyphen and the underscore. -/
def isWordChar (c : Char) : Bool := c.isAlphanum || c == '-' || c == '_'

/-- The unread rest of a text and its position. `size` is the length of the whole text, which bounds
every loop over the rest. -/
structure Cursor where
  rest : List Char
  mark : Mark
  size : Nat
deriving Repr, Inhabited

namespace Cursor

/-- The next character, if there is one. -/
def peek (c : Cursor) : Option Char := c.rest.head?

/-- The character `n` places on. -/
def peekAt (c : Cursor) (n : Nat) : Option Char := c.rest[n]?

/-- Whether the next character is the given one. -/
def sees (c : Cursor) (x : Char) : Bool := c.peek == some x

/-- Whether the character `n` places on is a blank, a break, or the end. -/
def gapAt (c : Cursor) (n : Nat) : Bool :=
  match c.peekAt n with
  | none => true
  | some x => isBlank x || isBreak x

/-- Whether a blank is next. -/
def atBlank (c : Cursor) : Bool := c.peek.any isBlank

/-- Whether a line break is next. -/
def atBreak (c : Cursor) : Bool := c.peek.any isBreak

/-- Whether the text is at its end. -/
def atEnd (c : Cursor) : Bool := c.rest.isEmpty

/-- The cursor after one character of the line. -/
def skip (c : Cursor) : Cursor :=
  match c.rest with
  | [] => c
  | x :: rest =>
    { c with rest := rest, mark := { c.mark with index := c.mark.index + x.utf8Size, column := c.mark.column + 1 } }

/-- The cursor after `n` characters of the line. -/
def skipN (c : Cursor) : Nat → Cursor
  | 0 => c
  | n + 1 => c.skip.skipN n

/-- The cursor after a line break. -/
def skipLine (c : Cursor) : Cursor :=
  match c.rest with
  | '\r' :: '\n' :: rest => { c with rest := rest, mark := ⟨c.mark.index + 2, c.mark.line + 1, 0⟩ }
  | x :: rest =>
    if isBreak x then { c with rest := rest, mark := ⟨c.mark.index + x.utf8Size, c.mark.line + 1, 0⟩ } else c
  | [] => c

/-- What a line break contributes to a scalar: a line feed, or one of the two separators as it is. -/
def breakChar (c : Cursor) : List Char :=
  match c.peek with
  | some x => if x == '\u2028' || x == '\u2029' then [x] else if isBreak x then ['\n'] else []
  | none => []

/-- The cursor after all characters of a class. -/
def dropWhile (c : Cursor) (p : Char → Bool) : Cursor :=
  let passed := c.rest.takeWhile p
  { c with rest := c.rest.drop passed.length
           mark := { c.mark with index := passed.foldl (fun n x => n + x.utf8Size) c.mark.index
                                 column := c.mark.column + passed.length } }

/-- The next characters of a class. -/
def takeWhile (c : Cursor) (p : Char → Bool) : List Char := c.rest.takeWhile p

/-- The cursor after the rest of a line. -/
def skipToBreak (c : Cursor) : Cursor := c.dropWhile fun x => !isBreak x

/-- Whether a document marker made of three times `x` starts here, at the start of a line. -/
def atMarker (c : Cursor) (x : Char) : Bool :=
  c.mark.column == 0 && c.sees x && c.peekAt 1 == some x && c.peekAt 2 == some x && c.gapAt 3

end Cursor

/-- The cursor at the start of a text. -/
def Cursor.ofString (s : String) : Cursor := ⟨s.toList, .zero, s.length⟩

end Shakedown.Yaml
