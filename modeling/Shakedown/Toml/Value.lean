import Shakedown.Toml.Reader
import Shakedown.Decimal.Binary64

/-!
# TOML documents

A document is a table; its entries keep the order in which they were given. Values and tables with
a place of their own in the text carry it. A table that only the keys of others imply has none, and
its key stands for it.
-/

namespace Shakedown.Toml

/-- A key and its place. -/
structure Key where
  name : String
  span : Span
deriving DecidableEq, Repr

/-- How a table came to be: written between braces, opened by a header, implied by the header of a
table below it, or implied by a dotted key. -/
inductive Origin where
  | inline
  | header
  | implied
  | dotted
deriving DecidableEq, Repr

/-- A value of a document. -/
inductive Value where
  | string (span : Span) (s : String)
  | integer (span : Span) (n : Int)
  | float (span : Span) (x : Decimal.Binary64)
  | boolean (span : Span) (b : Bool)
  | dateTime (span : Span)
  | array (span : Span) (items : List Value)
  | tables (items : List Value)
  | table (origin : Origin) (span : Option Span) (entries : List (Key × Value))
deriving Repr

/-- The table without entries that stands for a text without any. -/
def Value.emptyRoot : Value := .table .header none []

/-- The place of a value. A list of tables reaches from its first table to its last one. -/
def Value.span? : Value → Option Span
  | .string s _ | .integer s _ | .float s _ | .boolean s _ | .dateTime s | .array s _ => some s
  | .table _ s _ => s
  | .tables items =>
    let own : Value → Option Span := fun v => match v with
      | .table _ s _ => s
      | _ => none
    match items.head?.bind own, items.getLast?.bind own with
    | some first, some last => some ⟨first.start, last.stop⟩
    | _, _ => none

end Shakedown.Toml
