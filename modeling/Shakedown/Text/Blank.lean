/-!
# Blank characters

The characters with the Unicode property `White_Space`, and what is defined by them: trimming,
blank texts, and the words of a text.
-/

namespace Shakedown.Text

/-- The property `White_Space`: six ASCII controls, the space, and the wider spaces and separators. -/
def isBlank (c : Char) : Bool :=
  let n := c.toNat
  (0x09 ≤ n && n ≤ 0x0D) || n == 0x20 || n == 0x85 || n == 0xA0 || n == 0x1680 ||
    (0x2000 ≤ n && n ≤ 0x200A) || n == 0x2028 || n == 0x2029 || n == 0x202F || n == 0x205F ||
    n == 0x3000

/-- The text without blanks at its start. -/
def trimStart (cs : List Char) : List Char := cs.dropWhile isBlank

/-- The text without blanks at its end. -/
def trimEnd (cs : List Char) : List Char := (cs.reverse.dropWhile isBlank).reverse

/-- The text without blanks at either end. -/
def trim (s : String) : String := String.ofList (trimEnd (trimStart s.toList))

/-- A text of blanks only; the empty text is one. -/
def allBlank (s : String) : Bool := s.toList.all isBlank

/-- The words of the rest of a text, after the reversed letters `word` of an unfinished word. -/
def wordsFrom (word : List Char) : List Char → List (List Char)
  | [] => if word.isEmpty then [] else [word.reverse]
  | c :: rest =>
    if isBlank c then
      if word.isEmpty then wordsFrom [] rest else word.reverse :: wordsFrom [] rest
    else wordsFrom (c :: word) rest

/-- Words: the maximal runs of characters that are not blank. -/
def words (s : String) : List (List Char) := wordsFrom [] s.toList

end Shakedown.Text
