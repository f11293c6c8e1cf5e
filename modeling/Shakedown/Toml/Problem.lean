import Shakedown.Found
import Shakedown.Toml.Value

/-!
# Documents with values of the wrong type

What is wrong with a value, and the message that shows its line with the value underlined.
-/

namespace Shakedown.Toml

/-- A value as messages name it. -/
def Value.found : Value → Found
  | .string _ s => .text s
  | .integer _ n => .int n
  | .float _ x => .float x
  | .boolean _ b => .bool b
  | .array .. | .tables _ => .sequence
  | .dateTime _ | .table .. => .mapping

/-- What is wrong with a value. -/
inductive Cause where
  | wrongType (found : Found) (wanted : String)
  | wrongValue (found : Found) (wanted : String)
deriving DecidableEq, Repr

/-- What is wrong, in words. -/
def Cause.message : Cause → String
  | .wrongType found wanted => found.asWrongType wanted
  | .wrongValue found wanted => found.asWrongValue wanted

/-- A value that is wrong, and its place. -/
structure Problem where
  cause : Cause
  span : Option Span
deriving DecidableEq, Repr

/-- The characters before a number of bytes. -/
def charsBefore : Nat → List Char → List Char
  | _, [] => []
  | n, c :: rest => if n < c.utf8Size then [] else c :: charsBefore (n - c.utf8Size) rest

/-- The line in which a place starts, counted from zero, the characters before the place in that
line, and the line itself. -/
def lineOf (text : String) (span : Span) : Nat × Nat × String :=
  let before := charsBefore span.start text.toList
  let line := (before.filter (· == '\n')).length
  let column := (before.reverse.takeWhile (· != '\n')).length
  (line, column, ((text.splitOn "\n")[line]?).getD "")

/-- Spaces. -/
def spaces (n : Nat) : String := String.ofList (List.replicate n ' ')

/-- The line of a place, with the place underlined up to the end of the line. -/
def excerpt (text : String) (span : Span) : String :=
  let (line, column, content) := lineOf text span
  let number := toString (line + 1)
  let gutter := spaces (number.length + 1) ++ "|"
  let width := min (span.stop - span.start) (content.utf8ByteSize - column)
  s!"TOML parse error at line {number}, column {column + 1}\n{gutter}\n{number} | {content}\n{gutter}" ++
    spaces (column + 1) ++ String.ofList (List.replicate (max width 1) '^') ++ "\n"

/-- A problem of a text in words. -/
def Problem.message (text : String) (p : Problem) : String :=
  ((p.span.map (excerpt text)).getD "") ++ p.cause.message ++ "\n"

end Shakedown.Toml
