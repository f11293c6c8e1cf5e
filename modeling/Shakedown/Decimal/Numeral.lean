/-!
# Decimal numerals

Natural numbers and integers written in decimal digits, with a sign or without, and bounded: a
numeral for a number out of bounds writes none.
-/

namespace Shakedown.Decimal

/-- The number that decimal digits write, if it is at most `max`; no digit at all writes none. -/
def digitsUpTo (max : Nat) : List Char → Option Nat
  | [] => none
  | cs => cs.foldlM (fun n c => if c.isDigit then
      let n := n * 10 + (c.toNat - 48)
      if n ≤ max then some n else none
    else none) 0

/-- The number that digits write after a plus sign or none. -/
def naturalUpTo (max : Nat) : List Char → Option Nat
  | '+' :: rest => digitsUpTo max rest
  | cs => digitsUpTo max cs

/-- The number that digits write after a sign or none, between `-(max + 1)` and `max`. -/
def integerWithin (max : Nat) : List Char → Option Int
  | '-' :: rest => (digitsUpTo (max + 1) rest).map fun n => -(n : Int)
  | cs => (naturalUpTo max cs).map Int.ofNat

end Shakedown.Decimal
