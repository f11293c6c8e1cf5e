import Shakedown.Text.Utf8

/-!
# The first line of bytes

What is read of a stream up to its first line feed, and as text.
-/

namespace Shakedown.Text

/-- The bytes up to the first line feed, and with it if there is one. -/
def firstLine : List UInt8 → List UInt8
  | [] => []
  | b :: rest => if b = 10 then [b] else b :: firstLine rest

/-- The text of the first line; none if that is not UTF-8. -/
def firstLineText? (bytes : List UInt8) : Option String := (Utf8.decode (firstLine bytes)).toOption

end Shakedown.Text
