/-!
# Lines of a text

A line ends at a line feed, and one carriage return right before that line feed belongs to the
line end. Nothing after a final line feed is no line. `tailLines` keeps the last lines of a text.
-/

namespace Shakedown.Text

/-- The line whose reversed characters are `rev` and which a line feed ends. -/
def closeLine : List Char → List Char
  | '\r' :: rev => rev.reverse
  | rev => rev.reverse

/-- The lines of the rest of a text, after the reversed characters `rev` of an unfinished line. -/
def linesFrom (rev : List Char) : List Char → List (List Char)
  | [] => if rev.isEmpty then [] else [rev.reverse]
  | c :: rest => if c = '\n' then closeLine rev :: linesFrom [] rest else linesFrom (c :: rev) rest

/-- The lines of a text. -/
def lines (s : String) : List String := (linesFrom [] s.toList).map String.ofList

/-- The last `max` lines of a text, or all of them if there are fewer, joined by line feeds. -/
def tailLines (s : String) (max : Nat) : String :=
  let all := lines s
  "\n".intercalate (all.drop (all.length - max))

end Shakedown.Text
