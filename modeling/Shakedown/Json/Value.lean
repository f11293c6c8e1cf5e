import Shakedown.Decimal.Binary64

/-!
# JSON values

A value of a JSON document. An object is a list of pairs in the order in which they are written.
-/

namespace Shakedown

/-- Numbers of a document: integers as they are, others as binary64 values. -/
inductive Json.Number where
  | int (n : Int)
  | float (x : Decimal.Binary64)
deriving DecidableEq, Repr

/-- A JSON value. -/
inductive Json where
  | null
  | bool (b : Bool)
  | number (n : Json.Number)
  | string (s : String)
  | array (items : List Json)
  | object (fields : List (String × Json))
deriving Repr, Inhabited

namespace Json

/-- An integer. -/
def int (n : Int) : Json := .number (.int n)

/-- A natural number. -/
def nat (n : Nat) : Json := .number (.int n)

/-- The value of a field of an object. -/
def field? (key : String) : Json → Option Json
  | .object fields => (fields.find? fun f => f.1 == key).map (·.2)
  | _ => none

/-- The fields with one more, in the order of the keys; an equal key is replaced. -/
def insertField (key : String) (value : Json) : List (String × Json) → List (String × Json)
  | [] => [(key, value)]
  | (k, v) :: rest =>
    if key < k then (key, value) :: (k, v) :: rest
    else if key = k then (key, value) :: rest
    else (k, v) :: insertField key value rest

end Json
end Shakedown
