import Shakedown.Decimal.Numeral

/-!
# Arguments

The arguments of a program are options, which stand anywhere, and operands. A long option starts with
two dashes and may carry its value after an equals sign; short options of one letter may share a dash.
What follows a lone `--` is operands. `Grammar.scan` sorts the arguments of a program by the forms that
its grammar knows, up to the name of a command, and stops at the first that does not fit.
-/

namespace Shakedown.CommandLine

/-- What a value must be. -/
inductive ValueKind where
  | text
  | path
  | natural
  | integer
deriving DecidableEq, Repr

/-- Whether a text is a value of a kind. A path is not empty; natural numbers have 64 bits and integers
32 with their sign. -/
def ValueKind.admits (k : ValueKind) (text : String) : Bool :=
  match k with
  | .text => true
  | .path => !text.isEmpty
  | .natural => (Decimal.naturalUpTo (Nat.pow 2 64 - 1) text.toList).isSome
  | .integer => (Decimal.integerWithin (Nat.pow 2 31 - 1) text.toList).isSome

/-- What may be asked for instead of the work of a program. -/
inductive Question where
  | help
  | version
deriving DecidableEq, Repr

/-- What giving an option does: it takes a value or switches something on, both at most once, or counts
how often it is given, or asks a question. -/
inductive OptionRole where
  | takes (kind : ValueKind)
  | switches
  | counts
  | asks (question : Question)
deriving DecidableEq, Repr

/-- The form of an option: its long name, its letter if it has one, and its role. -/
structure OptionForm where
  long : String
  letter : Option Char := none
  role : OptionRole
deriving DecidableEq, Repr

/-- What a program's arguments may be: options, operands in order, and commands, each with arguments of
its own. -/
structure Grammar where
  options : List OptionForm
  operands : List ValueKind := []
  commands : List String := []
deriving DecidableEq, Repr

/-- The arguments that have been given: the values of options, the switches and counters as often as
they were given, and the operands. -/
structure Given where
  values : List (String × String) := []
  marks : List String := []
  operands : List String := []
deriving DecidableEq, Repr

/-- Why a program does not do its work: its arguments do not fit, or it is asked a question. -/
inductive Refusal where
  | misuse
  | asked (question : Question)
deriving DecidableEq, Repr

/-- Arguments that fit, and the command among them with the arguments after it. -/
structure Scanned where
  given : Given
  command : Option (String × List String) := none
deriving DecidableEq, Repr

namespace Given

/-- The value of an option. -/
def value? (g : Given) (long : String) : Option String := g.values.lookup long

/-- How often an option was given. -/
def count (g : Given) (long : String) : Nat := g.marks.count long

/-- Whether an option was given. -/
def isOn (g : Given) (long : String) : Bool := g.marks.contains long

/-- The value of an option that takes a natural number. -/
def natural? (g : Given) (long : String) : Option Nat :=
  (g.value? long).bind fun v => Decimal.naturalUpTo (Nat.pow 2 64 - 1) v.toList

/-- The value of an option that takes an integer. -/
def integer? (g : Given) (long : String) : Option Int :=
  (g.value? long).bind fun v => Decimal.integerWithin (Nat.pow 2 31 - 1) v.toList

end Given

namespace Grammar

/-- An option that takes a value is given one. -/
def takeValue (f : OptionForm) (kind : ValueKind) (value : String) (g : Given) : Except Refusal Given :=
  if !kind.admits value || (g.value? f.long).isSome then .error .misuse
  else .ok { g with values := g.values ++ [(f.long, value)] }

/-- An option is given without a value. -/
def mark (f : OptionForm) (g : Given) : Except Refusal Given :=
  match f.role with
  | .takes _ => .error .misuse
  | .switches => if g.isOn f.long then .error .misuse else .ok { g with marks := g.marks ++ [f.long] }
  | .counts => .ok { g with marks := g.marks ++ [f.long] }
  | .asks q => .error (.asked q)

/-- The option of a long name. -/
def long? (gr : Grammar) (name : String) : Option OptionForm := gr.options.find? (·.long == name)

/-- The option of a letter. -/
def letter? (gr : Grammar) (c : Char) : Option OptionForm := gr.options.find? (·.letter == some c)

/-- Letters that share a dash. -/
def markLetters (gr : Grammar) : List Char → Given → Except Refusal Given
  | [], g => .ok g
  | c :: rest, g =>
    match gr.letter? c with
    | none => .error .misuse
    | some f =>
      match mark f g with
      | .error e => .error e
      | .ok g => markLetters gr rest g

/-- An operand is given. -/
def takeOperand (gr : Grammar) (value : String) (g : Given) : Except Refusal Given :=
  match gr.operands[g.operands.length]? with
  | none => .error .misuse
  | some kind =>
    if kind.admits value then .ok { g with operands := g.operands ++ [value] } else .error .misuse

/-- A long option is given, with the text after its dashes: what is given then, and the form of the
option if the next argument is its value. -/
def takeLong (gr : Grammar) (text : List Char) (g : Given) : Except Refusal (Given × Option (OptionForm × ValueKind)) :=
  let name := String.ofList (text.takeWhile (· != '='))
  match gr.long? name, text.dropWhile (· != '=') with
  | none, _ => .error .misuse
  | some f, _ :: value =>
    match f.role with
    | .takes kind => (takeValue f kind (String.ofList value) g).map fun g => (g, none)
    | _ => .error .misuse
  | some f, [] =>
    match f.role with
    | .takes kind => .ok (g, some (f, kind))
    | _ => (mark f g).map fun g => (g, none)

/-- The arguments sorted, after what has been given. An option that waits for its value takes the next
argument unless that starts with a dash and goes on. -/
def scanFrom (gr : Grammar) : Option (OptionForm × ValueKind) → Given → List String → Except Refusal Scanned
  | none, g, [] => .ok ⟨g, none⟩
  | some _, _, [] => .error .misuse
  | some (f, kind), g, a :: rest =>
    -- A value is not taken from what looks like an option, but a single dash is a value.
    if a.startsWith "-" && a != "-" then .error .misuse
    else
      match takeValue f kind a g with
      | .error e => .error e
      | .ok g => scanFrom gr none g rest
  | none, g, a :: rest =>
    -- What follows the command is sorted by the grammar of the command.
    if gr.commands.contains a then .ok ⟨g, some (a, rest)⟩
    else
      match a.toList with
      | ['-', '-'] =>
        -- After two dashes everything is an operand.
        match rest.foldlM (fun g v => gr.takeOperand v g) g with
        | .error e => .error e
        | .ok g => .ok ⟨g, none⟩
      | '-' :: '-' :: text =>
        match gr.takeLong text g with
        | .error e => .error e
        | .ok (g, waiting) => scanFrom gr waiting g rest
      | '-' :: c :: letters =>
        match gr.markLetters (c :: letters) g with
        | .error e => .error e
        | .ok g => scanFrom gr none g rest
      | _ =>
        match gr.takeOperand a g with
        | .error e => .error e
        | .ok g => scanFrom gr none g rest

/-- The arguments of a program sorted. -/
def scan (gr : Grammar) (args : List String) : Except Refusal Scanned := gr.scanFrom none {} args

end Grammar

/-- The option that asks for help. -/
def helpOption : OptionForm := ⟨"help", some 'h', .asks .help⟩

/-- The option that asks for the version. -/
def versionOption : OptionForm := ⟨"version", some 'V', .asks .version⟩

end Shakedown.CommandLine
