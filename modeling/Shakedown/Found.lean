import Shakedown.Text.Quoted
import Shakedown.Decimal.Binary64

/-!
# What was found

A value of a data format in words, for messages about a value of the wrong type, and about one of
the right type that is out of range.
-/

namespace Shakedown

/-- What was found in place of what was asked for. -/
inductive Found where
  | unit
  | bool (b : Bool)
  | int (n : Int)
  | float (x : Decimal.Binary64)
  | text (s : String)
  | sequence
  | mapping
  | tagged
  | unitVariant
deriving DecidableEq, Repr

/-- A word for what was found. An integer beyond 64 bits is named with the width it needs. -/
def Found.describe : Found → String
  | .unit => "unit value"
  | .bool b => if b then "boolean `true`" else "boolean `false`"
  | .int n =>
    let width := if Nat.pow 2 64 ≤ n then " as u128" else if n < -(Nat.pow 2 63 : Int) then " as i128" else ""
    s!"integer `{n}`" ++ width
  | .float x => "floating point `" ++ x.positionalText ++ "`"
  | .text s => "string " ++ Text.quoted s
  | .sequence => "sequence"
  | .mapping => "map"
  | .tagged => "enum"
  | .unitVariant => "unit variant"

/-- A value of the wrong type, in words. -/
def Found.asWrongType (found : Found) (wanted : String) : String :=
  s!"invalid type: {found.describe}, expected {wanted}"

/-- A value of the right type that does not fit, in words. -/
def Found.asWrongValue (found : Found) (wanted : String) : String :=
  s!"invalid value: {found.describe}, expected {wanted}"

end Shakedown
