import Shakedown.Json.Value

/-!
# Printing JSON

`Json.compact` writes a value without spaces, `Json.pretty` over several lines with two spaces per
level. A string escapes the quote, the backslash and the control characters below U+0020; all else
stands as it is.
-/

namespace Shakedown.Json

/-- A lower-case hexadecimal digit. -/
def hexDigit (n : Nat) : Char := if n < 10 then Char.ofNat (48 + n) else Char.ofNat (87 + n)

/-- A character inside a quoted string. -/
def escapeChar (c : Char) : List Char :=
  if c = '"' then ['\\', '"']
  else if c = '\\' then ['\\', '\\']
  else if c = '\n' then ['\\', 'n']
  else if c = '\r' then ['\\', 'r']
  else if c = '\t' then ['\\', 't']
  else if c.toNat = 8 then ['\\', 'b']
  else if c.toNat = 12 then ['\\', 'f']
  else if c.toNat < 32 then ['\\', 'u', '0', '0', hexDigit (c.toNat / 16), hexDigit (c.toNat % 16)]
  else [c]

/-- A string in quotes. -/
def quote (s : String) : String := String.ofList ('"' :: s.toList.flatMap escapeChar ++ ['"'])

/-- A number; one without a JSON text is written as null. -/
def Number.text : Number → String
  | .int n => toString n
  | .float x => x.jsonText.getD "null"

mutual
/-- The value on one line without spaces. -/
def compact : Json → String
  | .null => "null"
  | .bool b => if b then "true" else "false"
  | .number n => n.text
  | .string s => quote s
  | .array items => "[" ++ ",".intercalate (compactItems items) ++ "]"
  | .object fields => "\x7b" ++ ",".intercalate (compactFields fields) ++ "\x7d"

/-- The items of an array, each on its own. -/
def compactItems : List Json → List String
  | [] => []
  | item :: rest => compact item :: compactItems rest

/-- The fields of an object, each on its own. -/
def compactFields : List (String × Json) → List String
  | [] => []
  | (key, value) :: rest => (quote key ++ ":" ++ compact value) :: compactFields rest
end

/-- A line break and the indentation of a level. -/
def breakLine (level : Nat) : String := "\n" ++ String.ofList (List.replicate (2 * level) ' ')

/-- Written entries of a level, each on its own line; none leaves the brackets empty. -/
def block (level : Nat) (opening closing : String) (entries : List String) : String :=
  if entries.isEmpty then opening ++ closing
  else opening ++ breakLine (level + 1) ++ ("," ++ breakLine (level + 1)).intercalate entries ++
    breakLine level ++ closing

mutual
/-- The value over several lines, from an indentation level on. -/
def prettyAt (level : Nat) : Json → String
  | .null => "null"
  | .bool b => if b then "true" else "false"
  | .number n => n.text
  | .string s => quote s
  | .array items => block level "[" "]" (prettyItems (level + 1) items)
  | .object fields => block level "\x7b" "\x7d" (prettyFields (level + 1) fields)

/-- The items of an array at a level. -/
def prettyItems (level : Nat) : List Json → List String
  | [] => []
  | item :: rest => prettyAt level item :: prettyItems level rest

/-- The fields of an object at a level. -/
def prettyFields (level : Nat) : List (String × Json) → List String
  | [] => []
  | (key, value) :: rest => (quote key ++ ": " ++ prettyAt level value) :: prettyFields level rest
end

/-- The value over several lines. -/
def pretty (j : Json) : String := prettyAt 0 j

end Shakedown.Json
