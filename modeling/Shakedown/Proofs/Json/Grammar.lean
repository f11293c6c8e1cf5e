import Mathlib.Algebra.Group.Int.Defs
import Mathlib.Algebra.Group.Nat.Defs
import Shakedown.Json.Value

/-!
# The grammar of documents

What a JSON text is, apart from how it is read and written: `Letters` spells the inside of a string, `Digits` a
natural number, and `Spells` a value, the items of an array or the fields of an object. A value may be spelled in
many ways, with spaces between the tokens and with escapes; numbers here are whole. `IsDocument` is a text that
spells one value.
-/

namespace Shakedown.Json

/-! ## Tokens -/

/-- The characters that may stand between two tokens. -/
def spaceChars : List Char := [' ', '\n', '\r', '\t']

/-- Nothing but spaces. -/
def Spaces (cs : List Char) : Prop := ∀ c ∈ cs, c ∈ spaceChars

/-- The escapes of one letter: the letter and the character that it stands for. -/
def escapes : List (Char × Char) :=
  [('"', '"'), ('\\', '\\'), ('/', '/'), ('b', Char.ofNat 8), ('f', Char.ofNat 12), ('n', '\n'), ('r', '\r'),
    ('t', '\t')]

/-- The hexadecimal digits with small letters, each at the position of its value. -/
def smallHex : List Char := ['0', '1', '2', '3', '4', '5', '6', '7', '8', '9', 'a', 'b', 'c', 'd', 'e', 'f']

/-- The hexadecimal digits with capital letters, each at the position of its value. -/
def capitalHex : List Char := ['0', '1', '2', '3', '4', '5', '6', '7', '8', '9', 'A', 'B', 'C', 'D', 'E', 'F']

/-- A hexadecimal digit of a value, with a small letter or a capital one. -/
def HexDigit (c : Char) (v : Nat) : Prop := smallHex[v]? = some c ∨ capitalHex[v]? = some c

/-- Four hexadecimal digits of a value. -/
inductive HexFour : List Char → Nat → Prop
  | of {a b c d : Char} {v w x y : Nat} (first : HexDigit a v) (second : HexDigit b w) (third : HexDigit c x)
      (fourth : HexDigit d y) : HexFour [a, b, c, d] (((v * 16 + w) * 16 + x) * 16 + y)

/-- Characters, and a way in which they are written inside quotes. -/
inductive Letters : List Char → List Char → Prop
  | nil : Letters [] []
  | plain {c : Char} {xs cs : List Char} (quote : c ≠ '"') (backslash : c ≠ '\\') (printed : 32 ≤ c.toNat)
      (rest : Letters xs cs) : Letters (c :: xs) (c :: cs)
  | escape {e c : Char} {xs cs : List Char} (known : (e, c) ∈ escapes) (rest : Letters xs cs) :
      Letters (c :: xs) ('\\' :: e :: cs)
  | unicode {ds xs cs : List Char} {n : Nat} (digits : HexFour ds n) (single : n < 0xD800 ∨ 0xDFFF < n)
      (rest : Letters xs cs) : Letters (Char.ofNat n :: xs) ('\\' :: 'u' :: (ds ++ cs))
  | pair {hs ls xs cs : List Char} {high low : Nat} (highDigits : HexFour hs high)
      (isHigh : 0xD800 ≤ high ∧ high < 0xDC00) (lowDigits : HexFour ls low) (isLow : 0xDC00 ≤ low ∧ low ≤ 0xDFFF)
      (rest : Letters xs cs) :
      Letters (Char.ofNat (0x10000 + (high - 0xD800) * 1024 + (low - 0xDC00)) :: xs)
        ('\\' :: 'u' :: (hs ++ '\\' :: 'u' :: (ls ++ cs)))

/-- A natural number in decimal digits, the first of them not zero unless it is the only one. -/
structure Digits (n : Nat) (ds : List Char) : Prop where
  nonempty : ds ≠ []
  digit : ∀ c ∈ ds, c.isDigit = true
  leading : ds.head? = some '0' → ds = ['0']
  value : Nat.ofDigitChars 10 ds 0 = n

/-! ## Values -/

/-- What a part of a text spells: a value, the items of an array, or the fields of an object. -/
inductive Piece where
  | value (j : Json)
  | items (js : List Json)
  | fields (fs : List (String × Json))

/-- A part of a document and a way in which it is written. A value comes without spaces around it. -/
inductive Spells : Piece → List Char → Prop
  | null : Spells (.value .null) ['n', 'u', 'l', 'l']
  | boolTrue : Spells (.value (.bool true)) ['t', 'r', 'u', 'e']
  | boolFalse : Spells (.value (.bool false)) ['f', 'a', 'l', 's', 'e']
  | nat {n : Nat} {ds : List Char} (digits : Digits n ds) : Spells (.value (.int n)) ds
  | negative {n : Nat} {ds : List Char} (nonzero : n ≠ 0) (digits : Digits n ds) :
      Spells (.value (.int (-n))) ('-' :: ds)
  | string {s : String} {cs : List Char} (letters : Letters s.toList cs) :
      Spells (.value (.string s)) ('"' :: cs ++ ['"'])
  | emptyArray {ws : List Char} (spaces : Spaces ws) : Spells (.value (.array [])) ('[' :: ws ++ [']'])
  | array {js : List Json} {cs : List Char} (items : Spells (.items js) cs) :
      Spells (.value (.array js)) ('[' :: cs ++ [']'])
  | emptyObject {ws : List Char} (spaces : Spaces ws) : Spells (.value (.object [])) ('\x7b' :: ws ++ ['\x7d'])
  | object {fs : List (String × Json)} {cs : List Char} (fields : Spells (.fields fs) cs) :
      Spells (.value (.object fs)) ('\x7b' :: cs ++ ['\x7d'])
  | item {j : Json} {before cs after : List Char} (before_spaces : Spaces before) (value : Spells (.value j) cs)
      (after_spaces : Spaces after) : Spells (.items [j]) (before ++ cs ++ after)
  | items {j : Json} {js : List Json} {before cs after more : List Char} (before_spaces : Spaces before)
      (value : Spells (.value j) cs) (after_spaces : Spaces after) (others : Spells (.items js) more) :
      Spells (.items (j :: js)) (before ++ cs ++ after ++ ',' :: more)
  | field {key : String} {j : Json} {start letters colon before cs after : List Char} (start_spaces : Spaces start)
      (name : Letters key.toList letters) (colon_spaces : Spaces colon) (before_spaces : Spaces before)
      (value : Spells (.value j) cs) (after_spaces : Spaces after) :
      Spells (.fields [(key, j)]) (start ++ '"' :: letters ++ '"' :: colon ++ ':' :: before ++ cs ++ after)
  | fields {key : String} {j : Json} {fs : List (String × Json)} {start letters colon before cs after more : List Char}
      (start_spaces : Spaces start) (name : Letters key.toList letters) (colon_spaces : Spaces colon)
      (before_spaces : Spaces before) (value : Spells (.value j) cs) (after_spaces : Spaces after)
      (others : Spells (.fields fs) more) :
      Spells (.fields ((key, j) :: fs))
        (start ++ '"' :: letters ++ '"' :: colon ++ ':' :: before ++ cs ++ after ++ ',' :: more)

/-- The text spells one value, with spaces around it or not. -/
def IsDocument (s : String) : Prop :=
  ∃ j before cs after, Spaces before ∧ Spells (.value j) cs ∧ Spaces after ∧ s.toList = before ++ cs ++ after

/-- A value whose numbers are whole, of 64 bits, and whose arrays and objects stand inside each other down to a
depth at most. -/
inductive Fits : Nat → Json → Prop
  | null {depth : Nat} : Fits depth .null
  | bool {depth : Nat} (b : Bool) : Fits depth (.bool b)
  | int {depth : Nat} {n : Int} (low : -2 ^ 63 ≤ n) (high : n < 2 ^ 64) : Fits depth (.int n)
  | string {depth : Nat} (s : String) : Fits depth (.string s)
  | array {depth : Nat} {js : List Json} (items : ∀ j ∈ js, Fits depth j) : Fits (depth + 1) (.array js)
  | object {depth : Nat} {fs : List (String × Json)} (fields : ∀ f ∈ fs, Fits depth f.2) :
      Fits (depth + 1) (.object fs)

end Shakedown.Json
