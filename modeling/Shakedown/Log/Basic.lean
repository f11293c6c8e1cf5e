import Shakedown.Text.Quoted

/-!
# Diagnostics

An event says what happened where, with fields. `Event.line` is its text on the diagnostic stream,
without the time: the level to the right of five columns, the message without commands to a
terminal, and the fields.
-/

namespace Shakedown.Log

/-- How much an event matters, the most important level first. -/
inductive Level where
  | error | warn | info | debug | trace
deriving DecidableEq, Repr

/-- The name of a level, in five columns. -/
def Level.text : Level → String
  | .error => "ERROR"
  | .warn => " WARN"
  | .info => " INFO"
  | .debug => "DEBUG"
  | .trace => "TRACE"

/-- The position of a level, from the most important one on. -/
def Level.rank : Level → Nat
  | .error => 1
  | .warn => 2
  | .info => 3
  | .debug => 4
  | .trace => 5

/-- The parts of the runner that report events. -/
inductive Source where
  | session | recorder | signals | build | server | client | readiness | commandLine
deriving DecidableEq, Repr

/-- The path of a source, which filters select by its parts. -/
def Source.path : Source → String
  | .session => "smoke::testing::runner"
  | .recorder => "smoke::testing::report"
  | .signals => "smoke::common::signal"
  | .build => "smoke::cargo"
  | .server => "smoke::process::managed"
  | .client => "smoke::process::invoke"
  | .readiness => "smoke::readiness"
  | .commandLine => "smoke::cli"

/-- The value of a field: a text in quotes, or one as it is. -/
inductive FieldValue where
  | quoted (s : String)
  | plain (s : String)
deriving DecidableEq, Repr

/-- The text of a field's value. -/
def FieldValue.text : FieldValue → String
  | .quoted s => Text.quoted s
  | .plain s => s

/-- An event. -/
structure Event where
  level : Level
  source : Source
  message : String
  fields : List (String × FieldValue) := []
deriving DecidableEq, Repr

/-- A character of a message. Those that a terminal may take for commands are written as codes. -/
def shown (c : Char) : List Char :=
  let n := c.toNat
  let digits := (if n < 16 then ['0'] else []) ++ Text.hexDigits n
  if n == 0x07 || n == 0x08 || n == 0x0C || n == 0x1B || n == 0x7F then '\\' :: 'x' :: digits
  else if 0x80 ≤ n && n ≤ 0x9F then '\\' :: 'u' :: '\x7b' :: digits ++ ['\x7d']
  else [c]

/-- The text of an event without its time. -/
def Event.line (e : Event) : String :=
  e.level.text ++ " " ++ " ".intercalate
    (String.ofList (e.message.toList.flatMap shown) :: e.fields.map fun f => f.1 ++ "=" ++ f.2.text)

/-- A number as a field's value. -/
def FieldValue.nat (n : Nat) : FieldValue := .plain (toString n)

/-- A process number as a field's value. -/
def FieldValue.pid (n : Nat) : FieldValue := .plain s!"Some({n})"

end Shakedown.Log
