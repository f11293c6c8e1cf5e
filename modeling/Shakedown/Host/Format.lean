import Shakedown.Decimal.Binary64
import Shakedown.Text.Utf8

/-!
# Formatted output

What `echo` and `printf` write, as bytes: an octal escape is one byte, whatever its value. A format is
used again until its arguments are used up; `printf` also tells which arguments are no numbers, and why
the format stops where it is no format.
-/

namespace Shakedown.Host.Format

/-- The bytes of a character. -/
def charBytes (c : Char) : List UInt8 := Text.Utf8.encode (String.ofList [c])

/-- Whether a character is an octal digit. -/
def isOctal (c : Char) : Bool := '0' ≤ c && c ≤ '7'

/-- The byte of octal digits. -/
def octalByte (cs : List Char) : UInt8 := UInt8.ofNat (cs.foldl (fun n c => n * 8 + (c.toNat - 48)) 0 % 256)

/-- The bytes of an escape after its backslash, the number of characters it takes, and whether all
output stops there. Where `zeroFirst`, octal digits may follow a zero that does not count. -/
def escape (zeroFirst : Bool) (cs : List Char) : List UInt8 × Nat × Bool :=
  match cs with
  | [] => ([92], 0, false)
  | c :: rest =>
    if isOctal c then
      let body := if zeroFirst && c == '0' then rest else cs
      let digits := (body.take 3).takeWhile isOctal
      ([octalByte digits], digits.length + (cs.length - body.length), false)
    else if c == 'a' then ([7], 1, false)
    else if c == 'b' then ([8], 1, false)
    else if c == 'c' && zeroFirst then ([], 1, true)
    else if c == 'f' then ([12], 1, false)
    else if c == 'n' then ([10], 1, false)
    else if c == 'r' then ([13], 1, false)
    else if c == 't' then ([9], 1, false)
    else if c == 'v' then ([11], 1, false)
    else if c == '\\' then ([92], 1, false)
    else (92 :: charBytes c, 1, false)

/-- The bytes of a text with escapes, and whether all output stops in it. -/
def unescape : Nat → List Char → List UInt8 × Bool
  | 0, _ => ([], false)
  | _ + 1, [] => ([], false)
  | fuel + 1, '\\' :: rest =>
    let (bytes, taken, stops) := escape true rest
    if stops then (bytes, true)
    else
      let (more, stops) := unescape fuel (rest.drop taken)
      (bytes ++ more, stops)
  | fuel + 1, c :: rest =>
    let (more, stops) := unescape fuel rest
    (charBytes c ++ more, stops)

/-- What `echo` writes: its arguments with blanks between them and, unless the first is `-n` or an
escape stops it, a line feed. -/
def echo (escapes : Bool) (args : List String) : List UInt8 :=
  let (silent, args) := match args with
    | "-n" :: rest => (true, rest)
    | all => (false, all)
  let text := " ".intercalate args
  let (bytes, stops) := if escapes then unescape (text.length + 1) text.toList else (Text.Utf8.encode text, false)
  if silent || stops then bytes else bytes ++ [10]

/-! ## Layout -/

/-- How a conversion is laid out. -/
structure Layout where
  left : Bool := false
  zeros : Bool := false
  plus : Bool := false
  blank : Bool := false
  marked : Bool := false
  width : Nat := 0
  precision : Option Nat := none

/-- A text laid out to its width. -/
def Layout.pad (l : Layout) (bytes : List UInt8) : List UInt8 :=
  let fill := l.width - bytes.length
  if l.left then bytes ++ List.replicate fill 32 else List.replicate fill 32 ++ bytes

/-- The sign of a number. -/
def Layout.sign (l : Layout) (negative : Bool) : String :=
  if negative then "-" else if l.plus then "+" else if l.blank then " " else ""

/-- A number laid out, given its sign or mark and the digits after that. -/
def Layout.signed (l : Layout) (fillsZeros : Bool) (sign digits : String) : List UInt8 :=
  if l.zeros && !l.left && fillsZeros then
    let fill := l.width - (sign.length + digits.length)
    Text.Utf8.encode (sign ++ String.ofList (List.replicate fill '0') ++ digits)
  else l.pad (Text.Utf8.encode (sign ++ digits))

/-- Digits with zeros before them up to the precision; at precision zero a zero has no digits. -/
def Layout.fill (l : Layout) (digits : String) : String :=
  match l.precision with
  | some 0 => if digits == "0" then "" else digits
  | some p => String.ofList (List.replicate (p - digits.length) '0') ++ digits
  | none => digits

/-! ## Numbers -/

/-- Why an argument is not, or not wholly, the number that it stands for. -/
inductive NumberFault where
  | noNumber
  | notWhole
  | outOfRange
deriving DecidableEq, Repr

/-- The fault of a number of which `rest` was left. -/
def NumberFault.of? (taken : Bool) (rest : List Char) (inRange : Bool) : Option NumberFault :=
  if !rest.isEmpty then some (if taken then .notWhole else .noNumber)
  else if inRange then none else some .outOfRange

/-- The value of a digit. -/
def digitValue (c : Char) : Nat :=
  if c.isDigit then c.toNat - 48
  else if 'a' ≤ c ∧ c ≤ 'f' then c.toNat - 87
  else if 'A' ≤ c ∧ c ≤ 'F' then c.toNat - 55 else 99

/-- Blanks before a number. -/
def isLeadingBlank (c : Char) : Bool := c == ' ' || (9 ≤ c.toNat && c.toNat ≤ 13)

/-- A magnitude, whether there was one, and the rest: octal after a zero, hexadecimal after `0x`. -/
def magnitude (cs : List Char) : Nat × Bool × List Char :=
  let value (base : Nat) (cs : List Char) : Nat × Bool × List Char :=
    let digits := cs.takeWhile fun c => digitValue c < base
    (digits.foldl (fun n c => n * base + digitValue c) 0, !digits.isEmpty, cs.drop digits.length)
  match cs with
  | '0' :: x :: d :: rest =>
    if (x == 'x' || x == 'X') && digitValue d < 16 then value 16 (d :: rest) else value 8 cs
  | '0' :: _ => value 8 cs
  | _ => value 10 cs

/-- The integer that an argument writes, within 64 bits with a sign or without, or the code of the character
after a quote; and what is wrong with it. -/
def integer (hasSign : Bool) (s : String) : Int × Option NumberFault :=
  match s.toList with
  | [] => (0, none)
  | c :: rest =>
    if c == '\'' || c == '"' then (((Text.Utf8.encode (String.ofList rest)).headD 0).toNat, none)
    else
      let cs := s.toList.dropWhile isLeadingBlank
      let negative := cs.head? == some '-'
      let (n, taken, rest) := magnitude (if negative || cs.head? == some '+' then cs.drop 1 else cs)
      let limit : Nat := if !hasSign then Nat.pow 2 64 - 1 else if negative then Nat.pow 2 63 else Nat.pow 2 63 - 1
      let kept := min n limit
      let value : Int := if hasSign then if negative then -(kept : Int) else kept
        else if negative && n ≤ limit then ((Nat.pow 2 64 - kept) % Nat.pow 2 64 : Nat) else kept
      (value, NumberFault.of? taken (if taken then rest else s.toList) (n ≤ limit))

/-- The digits of a number for a conversion. -/
def digitsFor (conversion : Char) (n : Nat) : String :=
  if conversion == 'x' then String.ofList (Nat.toDigits 16 n)
  else if conversion == 'X' then (String.ofList (Nat.toDigits 16 n)).toUpper
  else if conversion == 'o' then String.ofList (Nat.toDigits 8 n)
  else toString n

/-- A binary64 number that an argument starts with, whether there was one, and the rest. -/
def realAt (cs : List Char) : Decimal.Binary64 × Bool × List Char :=
  let negative := cs.head? == some '-'
  let body := if negative || cs.head? == some '+' then cs.drop 1 else cs
  let word (n : Nat) : String := (String.ofList (body.take n)).toLower
  if word 8 == "infinity" then (.infinite negative, true, body.drop 8)
  else if word 3 == "inf" then (.infinite negative, true, body.drop 3)
  else if word 3 == "nan" then (.nan, true, body.drop 3)
  else
    let whole := body.takeWhile Char.isDigit
    let rest := body.drop whole.length
    let places := if rest.head? == some '.' then (rest.drop 1).takeWhile Char.isDigit else []
    if whole.isEmpty && places.isEmpty then (.finite false 0 0, false, cs)
    else
      let rest := if rest.head? == some '.' then rest.drop (1 + places.length) else rest
      let exponentSign := (rest[1]?).getD ' '
      let afterSign := if exponentSign == '+' || exponentSign == '-' then rest.drop 2 else rest.drop 1
      let exponentDigits := afterSign.takeWhile Char.isDigit
      let hasExponent := (rest.head? == some 'e' || rest.head? == some 'E') && !exponentDigits.isEmpty
      let size : Nat := exponentDigits.foldl (fun n c => n * 10 + (c.toNat - 48)) 0
      let exponent : Int := if !hasExponent then 0 else if exponentSign == '-' then -(size : Int) else size
      let digits : Nat := (whole ++ places).foldl (fun n c => n * 10 + (c.toNat - 48)) 0
      (.ofDecimal negative digits (exponent - places.length), true,
        if hasExponent then afterSign.drop exponentDigits.length else rest)

/-- The binary64 number that an argument writes, and what is wrong with it. -/
def real (s : String) : Decimal.Binary64 × Option NumberFault :=
  match s.toList with
  | [] => (.finite false 0 0, none)
  | c :: rest =>
    if c == '\'' || c == '"' then
      (.ofDecimal false ((Text.Utf8.encode (String.ofList rest)).headD 0).toNat 0, none)
    else
      let (x, taken, rest) := realAt (s.toList.dropWhile isLeadingBlank)
      (x, NumberFault.of? taken (if taken then rest else s.toList) true)

/-- Digits with a point before the last `places` of them. -/
def withPoint (places : Nat) (marked : Bool) (n : Nat) : String :=
  let digits := toString n
  let filled := String.ofList (List.replicate (places + 1 - digits.length) '0') ++ digits
  let whole := filled.length - places
  (filled.take whole).toString ++
    (if places == 0 then if marked then "." else "" else "." ++ (filled.drop whole).toString)

/-- The exponent and the digits, `places` after the first, of a fraction in scientific notation. -/
def scientificParts (places : Nat) (num den : Nat) : Int × Nat :=
  if num = 0 then (0, 0)
  else
    let e := Decimal.Binary64.leadingExponent num den
    let scaled := Decimal.scaleTen num den (e - places)
    let digits := Decimal.roundDiv scaled.1 scaled.2
    if Nat.pow 10 (places + 1) ≤ digits then (e + 1, digits / 10) else (e, digits)

/-- An exponent with a sign and two digits or more. -/
def exponentText (e : Int) : String :=
  let digits := toString e.natAbs
  (if e < 0 then "e-" else "e+") ++ (if digits.length < 2 then "0" else "") ++ digits

/-- A text without zeros after its point, and without the point if nothing is left after it. -/
def withoutZeros (s : String) : String :=
  if s.contains '.' then
    let rev := s.toList.reverse.dropWhile (· == '0')
    String.ofList (if rev.head? == some '.' then rev.drop 1 else rev).reverse
  else s

/-- The digits of a fraction for a conversion. -/
def fractionText (l : Layout) (conversion : Char) (num den : Nat) : String :=
  let places := l.precision.getD 6
  if conversion == 'f' || conversion == 'F' then
    withPoint places l.marked (Decimal.roundDiv (num * Nat.pow 10 places) den)
  else if conversion == 'e' then
    let (e, digits) := scientificParts places num den
    withPoint places l.marked digits ++ exponentText e
  else
    let places := max 1 places
    let (e, digits) := scientificParts (places - 1) num den
    let strip (s : String) : String := if l.marked then s else withoutZeros s
    if -4 ≤ e && e < places then
      let after := ((places : Int) - 1 - e).toNat
      strip (withPoint after l.marked (Decimal.roundDiv (num * Nat.pow 10 after) den))
    else strip (withPoint (places - 1) l.marked digits) ++ exponentText e

/-- A binary64 number laid out for a conversion. -/
def Layout.real (l : Layout) (conversion : Char) (x : Decimal.Binary64) : List UInt8 :=
  let cased (s : String) : String := if conversion.isUpper then s.toUpper else s
  match x with
  | .finite negative m q =>
    let v := Decimal.Binary64.fraction m q
    l.signed true (l.sign negative) (cased (fractionText l conversion.toLower v.1 v.2))
  | .infinite negative => l.signed false (l.sign negative) (cased "inf")
  | .nan => l.signed false (l.sign false) (cased "nan")

/-! ## Formats -/

/-- Output so far: the bytes, the arguments left, whether one was taken, whether all output stops, the
arguments that are no numbers, and why the format is none. -/
structure Printing where
  bytes : List UInt8 := []
  args : List String
  took : Bool := false
  stops : Bool := false
  bad : List (String × NumberFault) := []
  fault : Option String := none

/-- The next argument. -/
def Printing.argument (p : Printing) : Option String × Printing :=
  match p.args with
  | a :: rest => (some a, { p with args := rest, took := true })
  | [] => (none, { p with took := true })

/-- An argument has a fault or none. -/
def Printing.note (p : Printing) (arg : String) (fault : Option NumberFault) : Printing :=
  { p with bad := p.bad ++ (fault.map fun f => (arg, f)).toList }

/-- More bytes. -/
def Printing.put (p : Printing) (bytes : List UInt8) : Printing := { p with bytes := p.bytes ++ bytes }

/-- The flags, width and precision of a conversion, and the rest. A star takes its number from the
arguments. -/
def layout (p : Printing) (cs : List Char) : Layout × Printing × List Char :=
  let flags := cs.takeWhile fun c => c == '-' || c == '0' || c == '+' || c == ' ' || c == '#'
  let rest := cs.drop flags.length
  let number (p : Printing) (cs : List Char) : Int × Printing × List Char :=
    match cs with
    | '*' :: rest =>
      let (a, p) := p.argument
      let (n, fault) := integer true (a.getD "")
      (n, p.note (a.getD "") fault, rest)
    | _ =>
      let digits := cs.takeWhile Char.isDigit
      (((String.ofList digits).toNat?).getD 0, p, cs.drop digits.length)
  let (width, p, rest) := number p rest
  let (precision, p, rest) : Option Int × Printing × List Char := match rest with
    | '.' :: rest =>
      let (n, p, rest) := number p rest
      (some n, p, rest)
    | _ => (none, p, rest)
  ({ left := flags.contains '-' || width < 0, zeros := flags.contains '0', plus := flags.contains '+',
     blank := flags.contains ' ', marked := flags.contains '#', width := width.natAbs,
     precision := (precision.filter (0 ≤ ·)).map Int.toNat }, p, rest)

/-- One conversion; `text` is the part of the format that asks for it. -/
def convert (p : Printing) (l : Layout) (conversion : Char) (text : String) : Printing :=
  let cut (bytes : List UInt8) : List UInt8 := match l.precision with
    | some n => bytes.take n
    | none => bytes
  if "sb".contains conversion then
    let (a, p) := p.argument
    let a := a.getD ""
    if conversion == 's' then p.put (l.pad (cut (Text.Utf8.encode a)))
    else
      let (bytes, stops) := unescape (a.length + 1) a.toList
      { p.put (l.pad (cut bytes)) with stops := stops }
  else if conversion == 'c' then
    let (a, p) := p.argument
    p.put (l.pad [(Text.Utf8.encode (a.getD "")).headD 0])
  else if "di".contains conversion then
    let (a, p) := p.argument
    let (n, fault) := integer true (a.getD "")
    (p.put (l.signed l.precision.isNone (l.sign (n < 0)) (l.fill (toString n.natAbs)))).note (a.getD "") fault
  else if "ouxX".contains conversion then
    let (a, p) := p.argument
    let (n, fault) := integer false (a.getD "")
    let digits := l.fill (digitsFor conversion n.toNat)
    let sign := if !l.marked || n == 0 then "" else if conversion == 'x' then "0x" else if conversion == 'X' then "0X"
      else if conversion == 'o' && !digits.startsWith "0" then "0" else ""
    (p.put (l.signed l.precision.isNone sign digits)).note (a.getD "") fault
  else if "eEfFgG".contains conversion then
    let (a, p) := p.argument
    let (x, fault) := real (a.getD "")
    (p.put (l.real conversion x)).note (a.getD "") fault
  else { p with fault := some s!"{text}: invalid directive" }

/-- One pass over a format. -/
def pass : Nat → List Char → Printing → Printing
  | 0, _, p => p
  | fuel + 1, cs, p =>
    if p.stops || p.fault.isSome then p
    else
      match cs with
      | [] => p
      | '\\' :: rest =>
        let (bytes, taken, _) := escape false rest
        pass fuel (rest.drop taken) (p.put bytes)
      | '%' :: '%' :: rest => pass fuel rest (p.put [37])
      | '%' :: start =>
        let (l, p, rest) := layout p start
        match rest with
        | c :: rest =>
          pass fuel rest (convert p l c (String.ofList ('%' :: start.take (start.length - rest.length))))
        | [] => { p with fault := some "missing format character" }
      | c :: rest => pass fuel rest (p.put (charBytes c))

/-- Passes over a format until the arguments are used up. -/
def passes : Nat → List Char → Printing → Printing
  | 0, _, p => p
  | fuel + 1, format, p =>
    let p := pass (format.length + 1) format { p with took := false }
    if p.args.isEmpty || !p.took || p.stops || p.fault.isSome then p else passes fuel format p

/-- What `printf` leads to for a format and arguments. -/
def printf (format : String) (args : List String) : Printing :=
  passes (args.length + 1) format.toList { args := args }

end Shakedown.Host.Format
