import Shakedown.Found
import Shakedown.Yaml.Core

/-!
# Documents of the wrong shape

What is wrong with a well-formed document that does not have the shape asked for, where, and how a
message says it.
-/

namespace Shakedown.Yaml

/-- What is wrong. -/
inductive Cause where
  | missingField (field : String)
  | duplicateField (field : String)
  | unknownVariant (variant : String) (known : List String)
  | wrongType (found : Found) (wanted : String)
  | wrongValue (found : Found) (wanted : String)
  | tooManyRepetitions
deriving DecidableEq, Repr

/-- Alternatives in words. -/
def alternatives : List String → String
  | [] => "there are no variants"
  | [a] => s!"expected `{a}`"
  | [a, b] => s!"expected `{a}` or `{b}`"
  | all => "expected one of " ++ ", ".intercalate (all.map fun a => s!"`{a}`")

/-- What is wrong, in words. -/
def Cause.message : Cause → String
  | .missingField f => s!"missing field `{f}`"
  | .duplicateField f => s!"duplicate field `{f}`"
  | .unknownVariant v known => s!"unknown variant `{v}`, {alternatives known}"
  | .wrongType found wanted => found.asWrongType wanted
  | .wrongValue found wanted => found.asWrongValue wanted
  | .tooManyRepetitions => "repetition limit exceeded"

/-- The way from the root of a document to a node: keys, positions, and keys that are no plain
text, innermost first. -/
inductive Step where
  | key (name : String)
  | item (index : Nat)
  | unknown
deriving DecidableEq, Repr

/-- Steps from the root, the last one first. -/
abbrev Trail := List Step

/-- A trail as a text. -/
def Trail.text : Trail → String
  | [] => "."
  | .item index :: outer => s!"{Trail.text outer}[{index}]"
  | .key name :: [] => name
  | .key name :: outer => s!"{Trail.text outer}.{name}"
  | .unknown :: [] => "?"
  | .unknown :: outer => s!"{Trail.text outer}.?"

/-- Where something is wrong. -/
structure Place where
  trail : Trail
  mark : Mark
deriving DecidableEq, Repr

/-- A problem with a document's shape; its place is the innermost one known. -/
structure Problem where
  cause : Cause
  place : Option Place := none
deriving DecidableEq, Repr

/-- The problem with a place, if it has none yet. -/
def Problem.locate (p : Problem) (trail : Trail) (mark : Mark) : Problem :=
  match p.cause, p.place with
  | .tooManyRepetitions, _ => p
  | _, some _ => p
  | _, none => { p with place := some ⟨trail, mark⟩ }

/-- The problem in words: the trail unless it is the root, what is wrong, and the position unless
it is the start of the text. -/
def Problem.message (p : Problem) : String :=
  match p.place with
  | none => p.cause.message
  | some place =>
    (if place.trail.isEmpty then "" else place.trail.text ++ ": ") ++ p.cause.message ++
      (if place.mark.line == 0 && place.mark.column == 0 then ""
       else s!" at line {place.mark.line + 1} column {place.mark.column + 1}")

end Shakedown.Yaml
