import Shakedown.Json.Value

/-!
# Reading JSON

`Json.parse?` reads a whole text as one value. Objects come out sorted by key, and the last of
equal keys wins. At most 127 arrays and objects may stand inside each other. An integer beyond 64
bits is read as a binary64 value, and so is `-0`; a number that would be infinite is refused. A number
with a fraction or an exponent is its digits as one integer, rounded, times or over a power of ten, and
rounded again: it may miss the nearest binary64 value.
-/

namespace Shakedown.Json

/-- The spaces between tokens. -/
def isSpace (c : Char) : Bool := c == ' ' || c == '\n' || c == '\r' || c == '\t'

/-- The text after spaces. -/
def skipSpaces (cs : List Char) : List Char := cs.dropWhile isSpace

/-- The value of a hexadecimal digit. -/
def hexValue? (c : Char) : Option Nat :=
  if '0' ≤ c ∧ c ≤ '9' then some (c.toNat - 48)
  else if 'a' ≤ c ∧ c ≤ 'f' then some (c.toNat - 87)
  else if 'A' ≤ c ∧ c ≤ 'F' then some (c.toNat - 55)
  else none

/-- Four hexadecimal digits. -/
def hexFour? : List Char → Option (Nat × List Char)
  | a :: b :: c :: d :: rest => do
    let a ← hexValue? a
    let b ← hexValue? b
    let c ← hexValue? c
    let d ← hexValue? d
    some (((a * 16 + b) * 16 + c) * 16 + d, rest)
  | _ => none

/-- The character of a one-letter escape. -/
def simpleEscape? (c : Char) : Option Char :=
  if c = '"' ∨ c = '\\' ∨ c = '/' then some c
  else if c = 'b' then some (Char.ofNat 8)
  else if c = 'f' then some (Char.ofNat 12)
  else if c = 'n' then some '\n'
  else if c = 'r' then some '\r'
  else if c = 't' then some '\t'
  else none

/-- The character of a `\u` escape whose `u` has been read; a pair of surrogates is one character
and a lone one is refused. -/
def unicodeEscape? (cs : List Char) : Option (Char × List Char) := do
  let (high, rest) ← hexFour? cs
  if high < 0xD800 ∨ 0xDFFF < high then some (Char.ofNat high, rest)
  else if 0xDC00 ≤ high then none
  else
    match rest with
    | '\\' :: 'u' :: rest => do
      let (low, rest) ← hexFour? rest
      if 0xDC00 ≤ low ∧ low ≤ 0xDFFF then
        some (Char.ofNat (0x10000 + (high - 0xD800) * 1024 + (low - 0xDC00)), rest)
      else none
    | _ => none

/-- The rest of a string after its opening quote, onto the reversed characters `rev`. -/
def stringFrom? : Nat → List Char → List Char → Option (String × List Char)
  | 0, _, _ => none
  | _ + 1, _, [] => none
  | fuel + 1, rev, c :: rest =>
    if c = '"' then some (String.ofList rev.reverse, rest)
    else if c.toNat < 32 then none
    else if c = '\\' then
      match rest with
      | 'u' :: rest => do
        let (x, rest) ← unicodeEscape? rest
        stringFrom? fuel (x :: rev) rest
      | e :: rest => do
        let x ← simpleEscape? e
        stringFrom? fuel (x :: rev) rest
      | [] => none
    else stringFrom? fuel (c :: rev) rest

/-- Whether a text starts with a digit. -/
def startsWithDigit (cs : List Char) : Bool := cs.head?.any Char.isDigit

/-- The digits at the start of a text appended to a number as long as it keeps within 64 bits: the number,
how many digits that were, and the rest, which starts with a digit only if that one did not fit. -/
def appendDigits : Nat → List Char → Nat × Nat × List Char
  | n, [] => (n, 0, [])
  | n, c :: rest =>
    if c.isDigit && n * 10 + (c.toNat - 48) < Nat.pow 2 64 then
      let (m, count, rest) := appendDigits (n * 10 + (c.toNat - 48)) rest
      (m, count + 1, rest)
    else (n, 0, c :: rest)

/-- A binary64 value scaled by a power of ten, one rounding for each factor of at most 308 places; nothing
if that would be infinite. Three factors make any 64-bit number zero. -/
def scaled? : Nat → Decimal.Binary64 → Int → Option Decimal.Binary64
  | 0, x, _ => some x
  | fuel + 1, x, e =>
    if e.natAbs ≤ 308 then
      match if 0 ≤ e then x.timesTen e.natAbs else x.overTen e.natAbs with
      | .infinite _ => none
      | y => some y
    else if x.isZero then some x
    else if 0 ≤ e then none
    else scaled? fuel (x.overTen 308) (e + 308)

/-- The number `significand · 10 ^ exponent`. -/
def real? (negative : Bool) (significand : Nat) (exponent : Int) : Option Json :=
  (scaled? 4 (.ofFraction negative significand 1) exponent).map fun x => .number (.float x)

/-- The value of decimal digits. -/
def digitsValue (cs : List Char) : Nat := cs.foldl (fun n c => n * 10 + (c.toNat - 48)) 0

/-- The exponent part after a fraction, if there is one, and with it the number. -/
def withExponent? (negative : Bool) (significand : Nat) (exponent : Int) (cs : List Char) : Option (Json × List Char) :=
  match cs with
  | c :: rest =>
    if c = 'e' ∨ c = 'E' then do
      let (down, rest) := match rest with
        | '+' :: rest => (false, rest)
        | '-' :: rest => (true, rest)
        | rest => (false, rest)
      let digits := rest.takeWhile Char.isDigit
      if digits.isEmpty then none
      let size := (digitsValue digits : Int)
      let x ← real? negative significand (if down then exponent - size else exponent + size)
      some (x, rest.dropWhile Char.isDigit)
    else (real? negative significand exponent).map fun x => (x, c :: rest)
  | [] => (real? negative significand exponent).map fun x => (x, [])

/-- The digits after a point, if there is one, and with them the number. Those that do not fit 64 bits do
not count. -/
def withFraction? (negative : Bool) (significand : Nat) (exponent : Int) (cs : List Char) : Option (Json × List Char) :=
  match cs with
  | '.' :: rest =>
    let (m, count, rest) := appendDigits significand rest
    if count = 0 && !startsWithDigit rest then none
    else withExponent? negative m (exponent - count) (rest.dropWhile Char.isDigit)
  | cs => withExponent? negative significand exponent cs

/-- Whether a text goes on with a fraction or an exponent. -/
def continuesNumber (cs : List Char) : Bool := cs.head?.any fun c => c == '.' || c == 'e' || c == 'E'

/-- The number at the start of a text, without its sign. An integer of 64 bits is one; of any other number
the first digits that fit 64 bits count, and the places of the others. -/
def number? (negative : Bool) (cs : List Char) : Option (Json × List Char) :=
  let (n, count, rest) := appendDigits 0 cs
  if count = 0 || (cs.head? == some '0' && count != 1) then none
  else if startsWithDigit rest then
    let more := rest.takeWhile Char.isDigit
    withFraction? negative n more.length (rest.drop more.length)
  else if continuesNumber rest then withFraction? negative n 0 rest
  else if negative then
    if n = 0 || Nat.pow 2 63 < n then (real? true n 0).map fun x => (x, rest) else some (.int (-(n : Int)), rest)
  else some (.int n, rest)

mutual
/-- The value at the start of a text, inside `depth` more levels of nesting at most. -/
def value? : Nat → Nat → List Char → Option (Json × List Char)
  | 0, _, _ => none
  | fuel + 1, depth, cs =>
    match skipSpaces cs with
    | 'n' :: 'u' :: 'l' :: 'l' :: rest => some (.null, rest)
    | 't' :: 'r' :: 'u' :: 'e' :: rest => some (.bool true, rest)
    | 'f' :: 'a' :: 'l' :: 's' :: 'e' :: rest => some (.bool false, rest)
    | '"' :: rest => (stringFrom? (rest.length + 1) [] rest).map fun r => (.string r.1, r.2)
    | '-' :: rest => number? true rest
    | '[' :: rest =>
      -- A level of nesting is used up, and there are only so many.
      match depth with
      | 0 => none
      | depth + 1 =>
        match skipSpaces rest with
        | ']' :: rest => some (.array [], rest)
        | rest => (items? fuel depth rest).map fun r => (.array r.1, r.2)
    | '\x7b' :: rest =>
      match depth with
      | 0 => none
      | depth + 1 =>
        match skipSpaces rest with
        | '\x7d' :: rest => some (.object [], rest)
        | rest => (fields? fuel depth [] rest).map fun r => (.object r.1, r.2)
    | rest => number? false rest

/-- The items of an array up to its end. -/
def items? : Nat → Nat → List Char → Option (List Json × List Char)
  | 0, _, _ => none
  | fuel + 1, depth, cs => do
    let (item, rest) ← value? fuel depth cs
    match skipSpaces rest with
    | ']' :: rest => some ([item], rest)
    | ',' :: rest => (items? fuel depth rest).map fun r => (item :: r.1, r.2)
    | _ => none

/-- The fields of an object up to its end, added to those read before. -/
def fields? : Nat → Nat → List (String × Json) → List Char → Option (List (String × Json) × List Char)
  | 0, _, _, _ => none
  | fuel + 1, depth, known, cs =>
    match skipSpaces cs with
    | '"' :: rest => do
      let (key, rest) ← stringFrom? (rest.length + 1) [] rest
      match skipSpaces rest with
      | ':' :: rest => do
        let (value, rest) ← value? fuel depth rest
        let known := insertField key value known
        match skipSpaces rest with
        | '\x7d' :: rest => some (known, rest)
        | ',' :: rest => fields? fuel depth known rest
        | _ => none
      | _ => none
    | _ => none
end

/-- The value that a whole text holds. -/
def parse? (s : String) : Option Json := do
  let cs := s.toList
  let (value, rest) ← value? (2 * cs.length + 2) 127 cs
  if (skipSpaces rest).isEmpty then some value else none

end Shakedown.Json
