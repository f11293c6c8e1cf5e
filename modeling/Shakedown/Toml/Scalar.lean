import Shakedown.Toml.Value

/-!
# Strings, numbers and times

Strings come in four forms: basic ones with escapes and literal ones without, each on one line or
on several. Integers have 64 bits. A number may hold single underscores between digits.
-/

namespace Shakedown.Toml

open Reader

/-- The value of a hexadecimal digit. -/
def hexDigit? (c : Char) : Option Nat :=
  if c.isDigit then some (c.toNat - 48)
  else if 'a' ≤ c ∧ c ≤ 'f' then some (c.toNat - 87)
  else if 'A' ≤ c ∧ c ≤ 'F' then some (c.toNat - 55)
  else none

/-- The number that a given count of hexadecimal digits writes. -/
def hexNumber : Nat → Nat → Reader Nat
  | 0, n => pure n
  | count + 1, n => do
    match hexDigit? (← next) with
    | some d => hexNumber count (n * 16 + d)
    | none => fail

/-- The character of a number, if there is one. -/
def charOf (n : Nat) : Reader Char :=
  if n < 0xD800 ∨ (0xDFFF < n ∧ n < 0x110000) then pure (Char.ofNat n) else fail

/-- The character of an escape after its backslash. -/
def escape : Reader Char := do
  let c ← next
  if c = 'b' then pure (Char.ofNat 8)
  else if c = 't' then pure '\t'
  else if c = 'n' then pure '\n'
  else if c = 'f' then pure (Char.ofNat 12)
  else if c = 'r' then pure '\r'
  else if c = '"' ∨ c = '\\' then pure c
  else if c = 'u' then charOf (← hexNumber 4 0)
  else if c = 'U' then charOf (← hexNumber 8 0)
  else fail

/-- The rest of a basic string on one line. -/
def basicLoop : Nat → List Char → Reader String
  | 0, _ => fail
  | fuel + 1, rev => do
    let c ← next
    if c = '"' then return String.ofList rev.reverse
    else if c = '\\' then basicLoop fuel ((← escape) :: rev)
    else if isText c then basicLoop fuel (c :: rev)
    else fail

/-- A basic string on one line. -/
def basicString : Reader String := do
  word ['"']
  basicLoop ((← rest).length + 1) []

/-- A literal string on one line. -/
def literalString : Reader String := do
  word ['\'']
  let cs ← takeWhile fun c => c != '\'' && isText c
  word ['\'']
  return String.ofList cs

/-- Whether the text after a backslash leaves its line empty. -/
def endsLine (cs : List Char) : Bool :=
  match cs.dropWhile isBlank with
  | '\n' :: _ | '\r' :: '\n' :: _ => true
  | _ => false

/-- Blanks and line ends are read. -/
def blanksAndLineEnds : Nat → Reader Unit
  | 0 => pure ()
  | fuel + 1 => do
    blanks
    if ← skipLineEnd then blanksAndLineEnds fuel

/-- The rest of a string on several lines. Three delimiters end it, and up to two more before them
belong to it. `escapes` says whether a backslash escapes. -/
def multilineLoop (quote : Char) (escapes : Bool) : Nat → List Char → Reader String
  | 0, _ => fail
  | fuel + 1, rev => do
    if ← sees [quote, quote, quote] then
      word [quote, quote, quote]
      let extra ← takeWhile (· == quote)
      if 2 < extra.length then fail
      else return String.ofList (rev.reverse ++ extra)
    else if ← skipLineEnd then multilineLoop quote escapes fuel ('\n' :: rev)
    else
      let c ← next
      if escapes && c == '\\' then
        if endsLine (← rest) then
          blanksAndLineEnds ((← rest).length + 1)
          multilineLoop quote escapes fuel rev
        else multilineLoop quote escapes fuel ((← escape) :: rev)
      else if isText c then multilineLoop quote escapes fuel (c :: rev)
      else fail

/-- A string on several lines; a line end right after the opening is none of its own. -/
def multilineString (quote : Char) (escapes : Bool) : Reader String := do
  word [quote, quote, quote]
  let _ ← skipLineEnd
  multilineLoop quote escapes ((← rest).length + 1) []

/-- A string of any form. -/
def string : Reader String := do
  if ← sees ['"', '"', '"'] then multilineString '"' true
  else if ← sees ['\'', '\'', '\''] then multilineString '\'' false
  else if ← sees ['"'] then basicString
  else literalString

/-- The loop of `digitGroup`, after a digit. -/
def digitLoop (isDigit : Char → Bool) : Nat → Reader (List Char)
  | 0 => pure []
  | fuel + 1 => do
    match ← peek with
    | some '_' =>
      let _ ← next
      let d ← one isDigit
      return d :: (← digitLoop isDigit fuel)
    | some c =>
      if isDigit c then
        let d ← next
        return d :: (← digitLoop isDigit fuel)
      else return []
    | none => return []

/-- Digits of a class with single underscores between them, which are left out. -/
def digitGroup (isDigit : Char → Bool) : Reader (List Char) := do
  let first ← one isDigit
  return first :: (← digitLoop isDigit ((← rest).length + 1))

/-- The number that digits write in a base. -/
def numberOf (base : Nat) (digits : List Char) : Nat :=
  digits.foldl (fun n c => n * base + (hexDigit? c).getD 0) 0

/-- An integer of 64 bits. -/
def integer64 (n : Int) : Reader Int := if -(Nat.pow 2 63 : Int) ≤ n ∧ n < Nat.pow 2 63 then pure n else fail

/-- A sign is read if it is next; whether it is a minus. -/
def sign : Reader Bool := do
  if ← skipIf ['-'] then pure true
  else
    let _ ← skipIf ['+']
    pure false

/-- The digits of a decimal integer, without a leading zero unless it is the only digit. -/
def decimalDigits : Reader (List Char) := do
  if ← skipIf ['0'] then return ['0'] else digitGroup Char.isDigit

/-- An exponent, if there is one. -/
def exponentPart : Reader (Option Int) := do
  match ← peek with
  | some c =>
    if c == 'e' || c == 'E' then
      let _ ← next
      let negative ← sign
      let digits := numberOf 10 (← digitGroup Char.isDigit)
      return some (if negative then -(digits : Int) else digits)
    else return none
  | none => return none

/-- A decimal number: an integer, or with a fraction or an exponent a binary64 value. A value that
rounds to positive infinity is refused. -/
def decimal (start : Nat) : Reader Value := do
  let negative ← sign
  let whole ← decimalDigits
  let fraction ← if ← skipIf ['.'] then some <$> digitGroup Char.isDigit else pure none
  let exponent ← exponentPart
  let span : Span := ⟨start, ← offset⟩
  match fraction, exponent with
  | none, none =>
    let n := (numberOf 10 whole : Int)
    return .integer span (← integer64 (if negative then -n else n))
  | _, _ =>
    let places := fraction.getD []
    let x := Decimal.Binary64.ofDecimal negative (numberOf 10 (whole ++ places))
      (exponent.getD 0 - places.length)
    if x = .infinite false then fail else return .float span x

/-- An integer in another base after its two-character mark. -/
def based (base : Nat) (isDigit : Char → Bool) (start : Nat) : Reader Value := do
  let _ ← next
  let _ ← next
  let n := numberOf base (← digitGroup isDigit)
  let n ← integer64 n
  return .integer ⟨start, ← offset⟩ n

/-- A number of two decimal digits within bounds. -/
def twoDigits (low high : Nat) : Reader Nat := do
  let a ← one Char.isDigit
  let b ← one Char.isDigit
  let n := numberOf 10 [a, b]
  if low ≤ n ∧ n ≤ high then pure n else fail

/-- The days of a month. -/
def daysInMonth (year month : Nat) : Nat :=
  if month = 2 then
    if year % 4 = 0 ∧ (year % 100 ≠ 0 ∨ year % 400 = 0) then 29 else 28
  else if month = 4 ∨ month = 6 ∨ month = 9 ∨ month = 11 then 30
  else 31

/-- A time of day after its hour. -/
def timeAfterHour : Reader Unit := do
  word [':']
  let _ ← twoDigits 0 59
  word [':']
  let _ ← twoDigits 0 60
  match ← rest with
  | '.' :: c :: _ =>
    if c.isDigit then
      word ['.']
      let _ ← takeWhile Char.isDigit
  | _ => pure ()

/-- A difference from universal time, if there is one. -/
def zoneOffset : Reader Unit := do
  match ← peek with
  | some c =>
    if c == 'Z' || c == 'z' then
      let _ ← next
    else if c == '+' || c == '-' then
      let _ ← next
      let _ ← twoDigits 0 23
      word [':']
      let _ ← twoDigits 0 59
  | none => pure ()

/-- Whether an hour and a colon follow. -/
def hourFollows (cs : List Char) : Bool :=
  match cs with
  | a :: b :: ':' :: _ => a.isDigit && b.isDigit && decide (numberOf 10 [a, b] ≤ 23)
  | _ => false

/-- A date, and a time of day after it if there is one. -/
def dateAndTime : Reader Unit := do
  let y ← takeWhile Char.isDigit
  let year := numberOf 10 y
  word ['-']
  let month ← twoDigits 1 12
  word ['-']
  let day ← twoDigits 1 31
  if daysInMonth year month < day then fail
  match ← rest with
  | c :: after =>
    if (c == 'T' || c == 't' || c == ' ') && hourFollows after then
      let _ ← next
      let _ ← twoDigits 0 23
      timeAfterHour
      zoneOffset
  | [] => pure ()

/-- A time of day. -/
def timeOfDay : Reader Unit := do
  let _ ← twoDigits 0 23
  timeAfterHour

/-- Whether a text starts with four digits and a hyphen. -/
def dateFollows (cs : List Char) : Bool :=
  (cs.take 4).all Char.isDigit && cs[4]? == some '-'

/-- A word for a value that is no finite number. -/
def specialFloat (start : Nat) : Reader Value := do
  let negative ← sign
  let x ← if ← skipIf ['i', 'n', 'f'] then pure (Decimal.Binary64.infinite negative)
    else do
      word ['n', 'a', 'n']
      pure .nan
  return .float ⟨start, ← offset⟩ x

/-- A number, a date or a time. -/
def numberOrTime : Reader Value := do
  let start ← offset
  let cs ← rest
  if dateFollows cs then
    dateAndTime
    return .dateTime ⟨start, ← offset⟩
  else if hourFollows cs then
    timeOfDay
    return .dateTime ⟨start, ← offset⟩
  else
    match cs with
    | '0' :: 'x' :: _ => based 16 (fun c => (hexDigit? c).isSome) start
    | '0' :: 'o' :: _ => based 8 (fun c => '0' ≤ c && c ≤ '7') start
    | '0' :: 'b' :: _ => based 2 (fun c => c == '0' || c == '1') start
    | '+' :: 'i' :: _ | '+' :: 'n' :: _ | '-' :: 'i' :: _ | '-' :: 'n' :: _ => specialFloat start
    | _ => decimal start

end Shakedown.Toml
