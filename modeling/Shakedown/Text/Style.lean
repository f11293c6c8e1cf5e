/-!
# Terminal styles

Text coloured for a terminal: the codes of the effects and then of the colour, joined by `;`,
before the text, and the reset sequence after it. With colours off, and for an empty text, the
text stands alone. A reset inside the text is followed by the style again, so that the whole text
keeps it.
-/

namespace Shakedown.Text

/-- Foreground colours. -/
inductive Colour where
  | red | green | yellow | blue | cyan | white
deriving DecidableEq, Repr

/-- The number that selects a foreground colour. -/
def Colour.code : Colour → Nat
  | .red => 31
  | .green => 32
  | .yellow => 33
  | .blue => 34
  | .cyan => 36
  | .white => 37

/-- A style: two effects and a colour. -/
structure Style where
  bold : Bool := false
  dimmed : Bool := false
  colour : Option Colour := none
deriving DecidableEq, Repr

namespace Style

/-- The codes of a style, effects first. -/
def codes (s : Style) : List Nat :=
  (if s.bold then [1] else []) ++ (if s.dimmed then [2] else []) ++ (s.colour.map Colour.code).toList

/-- The sequence that switches a style on. -/
def opening (s : Style) : String :=
  "\x1b[" ++ ";".intercalate (s.codes.map toString) ++ "m"

/-- The sequence that switches every style off. -/
def reset : String := "\x1b[0m"

/-- The text in the style, if colours are on. -/
def paint (colours : Bool) (s : Style) (text : String) : String :=
  if colours && !text.isEmpty && !s.codes.isEmpty then
    s.opening ++ (reset ++ s.opening).intercalate (text.splitOn reset) ++ reset
  else text

/-- A colour alone. -/
def of (c : Colour) : Style := { colour := some c }

/-- A bold colour. -/
def boldOf (c : Colour) : Style := { bold := true, colour := some c }

/-- The dimmed style. -/
def dim : Style := { dimmed := true }

end Style

/-- Whether a program colours what it prints: as the variable that forces it says, or else not if the
one that forbids it is set, or else only on a terminal, where a third variable can say no. -/
def isColoured (lookup : String → Option String) (isTerminal : Bool) : Bool :=
  let saysYes (name : String) : Option Bool := (lookup name).map (· != "0")
  if saysYes "CLICOLOR_FORCE" == some true then true
  else if (lookup "NO_COLOR").isSome then false
  else (saysYes "CLICOLOR").getD true && isTerminal

end Shakedown.Text
