/-!
# Searching a text
-/

namespace Shakedown.Text

/-- Whether some characters stand in a row in others. -/
def containsChars (needle : List Char) : List Char → Bool
  | [] => needle.isEmpty
  | c :: rest => needle.isPrefixOf (c :: rest) || containsChars needle rest

/-- Whether a text is part of another one. -/
def contains (text needle : String) : Bool := containsChars needle.toList text.toList

end Shakedown.Text
