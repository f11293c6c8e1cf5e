import Shakedown.Decimal.Binary64
import Shakedown.Yaml.Node

/-!
# Plain scalars and their values

What a plain scalar stands for: the null words, the truth words, integers in four bases, binary64
numbers, and else the text itself. Digits after a leading zero are a text.
-/

namespace Shakedown.Yaml

/-- The value of a scalar. -/
inductive ScalarValue where
  | null
  | bool (b : Bool)
  | int (n : Int)
  | float (x : Decimal.Binary64)
  | text (s : String)
deriving DecidableEq, Repr

/-- The words for null. -/
def isNullWord (s : String) : Bool := s == "null" || s == "Null" || s == "NULL" || s == "~"

/-- The words for a truth value. -/
def truth? (s : String) : Option Bool :=
  if s == "true" || s == "True" || s == "TRUE" then some true
  else if s == "false" || s == "False" || s == "FALSE" then some false
  else none

/-- The number that digits of a base write. -/
def digitsValue? (base : Nat) (cs : List Char) : Option Nat :=
  if cs.isEmpty then none
  else cs.foldlM (fun n c =>
    let d := if '0' ≤ c ∧ c ≤ '9' then c.toNat - 48
      else if 'a' ≤ c ∧ c ≤ 'z' then c.toNat - 87
      else if 'A' ≤ c ∧ c ≤ 'Z' then c.toNat - 55 else base
    if d < base then some (n * base + d) else none) 0

/-- Two digits or more of which the first is zero, after a sign or none. -/
def isZeroPadded (cs : List Char) : Bool :=
  let ds := match cs with
    | '-' :: rest | '+' :: rest => rest
    | cs => cs
  match ds with
  | '0' :: d :: rest => (d :: rest).all Char.isDigit
  | _ => false

/-- The magnitude of an integer, in base 16, 8 or 2 after `0x`, `0o` or `0b`, and else in base 10. -/
def magnitude? (cs : List Char) : Option Nat :=
  match cs with
  | '0' :: 'x' :: rest => digitsValue? 16 rest
  | '0' :: 'o' :: rest => digitsValue? 8 rest
  | '0' :: 'b' :: rest => digitsValue? 2 rest
  | cs => if isZeroPadded cs then none else digitsValue? 10 cs

/-- A number that is not negative, after a plus sign or none. -/
def natural? (s : String) : Option Nat :=
  match s.toList with
  | '+' :: rest => magnitude? rest
  | cs => magnitude? cs

/-- An integer that fits 128 bits. -/
def integer? (s : String) : Option Int :=
  match s.toList with
  | '-' :: rest => (magnitude? rest).bind fun n => if n ≤ Nat.pow 2 127 then some (-(n : Int)) else none
  | _ => (natural? s).bind fun n => if n < Nat.pow 2 128 then some (n : Int) else none

/-- Digits, possibly with a point among them, and an exponent or none, as a binary64 value. -/
def decimal? (negative : Bool) (cs : List Char) : Option Decimal.Binary64 :=
  let whole := cs.takeWhile Char.isDigit
  let rest := cs.dropWhile Char.isDigit
  let (places, rest) := match rest with
    | '.' :: rest => (rest.takeWhile Char.isDigit, rest.dropWhile Char.isDigit)
    | rest => ([], rest)
  let exponent? : Option Int := match rest with
    | [] => some 0
    | e :: rest =>
      if e == 'e' || e == 'E' then
        match rest with
        | '-' :: ds => (digitsValue? 10 ds).map fun n => -(n : Int)
        | '+' :: ds => (digitsValue? 10 ds).map Int.ofNat
        | ds => (digitsValue? 10 ds).map Int.ofNat
      else none
  match digitsValue? 10 (whole ++ places), exponent? with
  | some n, some e =>
    match Decimal.Binary64.ofDecimal negative n (e - places.length) with
    | .infinite _ => none
    | x => some x
  | _, _ => none

/-- A binary64 number, or one of the words for what is not finite. -/
def float? (s : String) : Option Decimal.Binary64 :=
  if s ∈ [".inf", ".Inf", ".INF", "+.inf", "+.Inf", "+.INF"] then some (.infinite false)
  else if s ∈ ["-.inf", "-.Inf", "-.INF"] then some (.infinite true)
  else if s ∈ [".nan", ".NaN", ".NAN"] then some .nan
  else
    match s.toList with
    | '-' :: rest => decimal? true rest
    | '+' :: rest => decimal? false rest
    | cs => decimal? false cs

/-- The value of a plain scalar without a tag. -/
def plainValue (s : String) : ScalarValue :=
  if s.isEmpty || isNullWord s then .null
  else
    match truth? s with
    | some b => .bool b
    | none =>
      match integer? s with
      | some n => .int n
      | none =>
        if isZeroPadded s.toList then .text s
        else
          match float? s with
          | some x => .float x
          | none => .text s

/-! ## Tags of the core schema -/

/-- What a tag says about a scalar. One that starts with `!` and is no text says nothing. -/
inductive TagClass where
  | null
  | bool
  | int
  | float
  | variant
  | untold
  | other
deriving DecidableEq, Repr

/-- The class of a tag; one of `!` and a text names a variant. -/
def tagClass (tag : Tag) : TagClass :=
  if tag == coreTag "null" then .null
  else if tag == coreTag "bool" then .bool
  else if tag == coreTag "int" then .int
  else if tag == coreTag "float" then .float
  else if !tag.isLocal then .other
  else if (Text.Utf8.decode (tag.drop 1)).isOk then .variant
  else .untold

end Shakedown.Yaml
