import Shakedown.Text.Printable

/-!
# Quoted texts in messages

A text between double quotes as messages show it: quotes, backslashes and the common controls are
escaped by a letter, and a character that is not printable by its number in braces.
-/

namespace Shakedown.Text

/-- Lower-case hexadecimal digits of a number. -/
def hexDigits (n : Nat) : List Char := Nat.toDigits 16 n

/-- A character between quotes. -/
def quotedChar (c : Char) : List Char :=
  if c = '"' then ['\\', '"']
  else if c = '\\' then ['\\', '\\']
  else if c = '\n' then ['\\', 'n']
  else if c = '\r' then ['\\', 'r']
  else if c = '\t' then ['\\', 't']
  else if c.toNat = 0 then ['\\', '0']
  else if isPrintable c then [c]
  else ['\\', 'u', '\x7b'] ++ hexDigits c.toNat ++ ['\x7d']

/-- A text between quotes. -/
def quoted (s : String) : String := String.ofList ('"' :: s.toList.flatMap quotedChar ++ ['"'])

/-- A list of texts between brackets, each in quotes. -/
def quotedList (items : List String) : String := "[" ++ ", ".intercalate (items.map quoted) ++ "]"

end Shakedown.Text
