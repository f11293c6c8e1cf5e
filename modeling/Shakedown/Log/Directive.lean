import Shakedown.Log.Basic
import Shakedown.Decimal.Numeral
import Shakedown.Log.Pattern
import Shakedown.Text.Blank
import Shakedown.Text.Utf8

/-!
# Directives

A directive gives a level to some events: `target[span{field=value}]=level`, where each part may be
missing, or a level alone. `Directive.parse?` reads one. Blanks around a directive are passed over when
its signs are looked for, but the parts between the signs are cut out of the text with its blanks, at
the same number of bytes from the start. So a blank before a directive moves all cuts.
-/

namespace Shakedown.Log

/-- A directive: the start of the paths that it is about, if not all of them, a field that its events
have, and the least important level that it lets through. A directive about spans is about no event. -/
structure Directive where
  target : Option String := none
  field : Option String := none
  level : Option Level := some .trace
  isAboutSpans : Bool := false
deriving DecidableEq, Repr

/-- The levels by name, with the one that lets nothing through. -/
def levelNames : List (String × Option Level) :=
  [("off", none), ("error", some .error), ("warn", some .warn), ("info", some .info), ("debug", some .debug),
    ("trace", some .trace)]

/-- The levels by number. -/
def levelNumbers : List (Option Level) :=
  [none, some .error, some .warn, some .info, some .debug, some .trace]

/-- The level that a text names, in any case of letters, or numbers. -/
def levelNamed? (s : String) : Option (Option Level) :=
  match Decimal.naturalUpTo 5 s.toList with
  | some n => levelNumbers[n]?
  | none => levelNames.lookup s.toLower

namespace Directive

/-- The part of a directive that is being read, with the number of bytes before it. -/
inductive Part where
  | start
  | head (since : Nat)
  | span (since : Nat)
  | field (since : Nat)
  | afterField
  | afterSpan
  | level (since : Nat)
deriving DecidableEq, Repr

/-- A directive that is being read. -/
structure Reading where
  part : Part := .start
  sofar : Directive := {}
deriving DecidableEq, Repr

/-- The bytes of a text between two offsets, as a text. -/
def cut (text : List UInt8) (first last : Nat) : Option String :=
  (Text.Utf8.decode ((text.drop first).take (last - first))).toOption

/-- Characters that a directive may start with, besides the bracket of a span. -/
def mayStart (c : Char) : Bool := c == '-' || c == ':' || c == '_' || Text.isAlphanumeric c

/-- The directive with a field, which has a name and perhaps a value. A value is found in spans only. -/
def withField (d : Directive) (text : String) : Option Directive :=
  match text.splitOn "=" with
  | _ :: value :: _ => if Pattern.isValue value.toList then some { d with isAboutSpans := true } else none
  | _ => if text.isEmpty then none else some { d with field := some text }

/-- The directive with the level that a text after an equals sign names; an empty one lets all through. -/
def withLevel (d : Directive) (text : String) : Option Directive :=
  if text.isEmpty then some d else (levelNamed? text).map fun l => { d with level := l }

/-- The directive that is a level or a target alone. -/
def ofHead (text : String) : Directive :=
  match levelNamed? text with
  | some l => { level := l }
  | none => { target := some text }

/-- Reads the character at an offset. -/
def Reading.step (text : List UInt8) (r : Reading) (offset : Nat) (c : Char) : Option Reading :=
  match r.part with
  | .start =>
    if c == '[' then some { r with part := .span (offset + 1) }
    else if mayStart c then some { r with part := .head offset }
    else none
  | .head since =>
    if c == '=' then (cut text since offset).map fun t => ⟨.level (offset + 1), { r.sofar with target := some t }⟩
    else if c == '[' then
      (cut text since offset).map fun t => ⟨.span (offset + 1), { r.sofar with target := some t }⟩
    else some r
  | .span since =>
    if c == ']' then some ⟨.afterSpan, { r.sofar with isAboutSpans := true }⟩
    else if c == '\x7b' then
      (cut text since offset).map fun t =>
        ⟨.field (offset + 1), { r.sofar with isAboutSpans := r.sofar.isAboutSpans || !t.isEmpty }⟩
    else some r
  | .field since =>
    if c == '\x7d' then
      (cut text since offset).bind fun t => (r.sofar.withField t).map fun d => ⟨.afterField, d⟩
    else some r
  | .afterField => if c == ']' then some { r with part := .afterSpan } else none
  | .afterSpan => if c == '=' then some { r with part := .level (offset + 1) } else none
  | .level _ => some r

/-- Reads characters, the first of which stands at an offset. -/
def Reading.steps (text : List UInt8) (r : Reading) (offset : Nat) : List Char → Option Reading
  | [] => some r
  | c :: rest => (r.step text offset c).bind fun r => r.steps text (offset + c.utf8Size) rest

/-- The directive that has been read when the text ends. -/
def Reading.finish (text : List UInt8) (r : Reading) : Option Directive :=
  match r.part with
  | .head since => (cut text since text.length).map ofHead
  | .level since => (cut text since text.length).bind r.sofar.withLevel
  | .afterSpan => some r.sofar
  | _ => none

/-- The directive that a text writes. -/
def parse? (text : String) : Option Directive :=
  let bytes := Text.Utf8.encode text
  (({} : Reading).steps bytes 0 (Text.trim text).toList).bind (·.finish bytes)

/-- Whether a directive is about an event. -/
def concerns (d : Directive) (e : Event) : Bool :=
  !d.isAboutSpans && (match d.target with | some t => e.source.path.startsWith t | none => true) &&
    (match d.field with | some name => name == "message" || e.fields.any (·.1 == name) | none => true)

/-- Whether a directive counts before another one: it has a target, a longer one, or a field. Of two that
differ in nothing else, the one that comes later in the dictionary counts. -/
def isBefore (a b : Directive) : Bool :=
  let rank (d : Directive) : Nat × Nat :=
    (match d.target with | some t => t.utf8ByteSize + 1 | none => 0, if d.field.isSome then 1 else 0)
  if rank a != rank b then
    (rank b).1 < (rank a).1 || ((rank b).1 == (rank a).1 && (rank b).2 < (rank a).2)
  else if a.target != b.target then decide (b.target.getD "" < a.target.getD "")
  else decide (b.field.getD "" < a.field.getD "")

end Directive
end Shakedown.Log
