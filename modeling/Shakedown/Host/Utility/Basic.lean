import Shakedown.Host.World

/-!
# Programs as functions

A program of the system takes its arguments, its input and the files to its output, its exit code and
the files after it. This module holds what the programs share: the scope that they look at, their
result, their options, and the reading of the files that they are given. Text is bytes; a byte counts
as a character.
-/

namespace Shakedown.Host.Utility

/-- What a program may look at. The size of the input is known if that is a file. -/
structure Scope where
  files : Files
  here : Place
  environment : List (String × String)
  name : String
  own : String
  args : List String
  input : List UInt8
  inputSize : Option Nat := none

/-- What a program leads to. The complaints of `early` come before all output, those of `err` after it. -/
structure Result where
  files : Files
  early : List UInt8 := []
  out : List UInt8 := []
  err : List UInt8 := []
  status : Nat := 0
  signals : List (Nat × Nat) := []

/-- The bytes of a text. -/
def bytesOf (s : String) : List UInt8 := Text.Utf8.encode s

/-- Bytes as characters, one for each. -/
def charsOf (bytes : List UInt8) : List Char := bytes.map fun b => Char.ofNat b.toNat

/-- The bytes that stand for characters. -/
def ofChars (cs : List Char) : List UInt8 := cs.map fun c => c.toNat.toUInt8

/-- The bytes of a text as characters. -/
def charsOfText (s : String) : List Char := charsOf (bytesOf s)

/-- A program ends with an exit code. -/
def Scope.done (sc : Scope) (status : Nat) : Result := { files := sc.files, status := status }

/-- A program writes and succeeds. -/
def Scope.put (sc : Scope) (out : List UInt8) : Result := { files := sc.files, out := out }

/-- A complaint of a program. -/
def Scope.complaint (sc : Scope) (message : String) : List UInt8 := bytesOf s!"{sc.own}: {message}\n"

/-- A program complains and fails. -/
def Scope.complain (sc : Scope) (message : String) (status : Nat) : Result :=
  { files := sc.files, err := sc.complaint message, status := status }

/-- A program does not understand its arguments. -/
def Scope.misuse (sc : Scope) (message : String) (status : Nat) : Result :=
  { files := sc.files, status := status,
    err := sc.complaint message ++ bytesOf s!"Try '{sc.own} --help' for more information.\n" }

/-- A result with a complaint more. -/
def Result.complaining (r : Result) (complaint : List UInt8) (status : Nat) : Result :=
  if r.out.isEmpty then { r with early := r.early ++ complaint, status := max r.status status }
  else { r with err := r.err ++ complaint, status := max r.status status }

/-! ## Lines -/

/-- The lines of bytes, each with its line feed if it has one. -/
def linesFrom (rev : List UInt8) : List UInt8 → List (List UInt8)
  | [] => if rev.isEmpty then [] else [rev.reverse]
  | b :: rest => if b == 10 then (b :: rev).reverse :: linesFrom [] rest else linesFrom (b :: rev) rest

/-- The lines of bytes. -/
def lines (bytes : List UInt8) : List (List UInt8) := linesFrom [] bytes

/-- A line without its line feed. -/
def chomp (line : List UInt8) : List UInt8 := if line.getLast? == some 10 then line.dropLast else line

/-- Lines without their line feeds. -/
def bareLines (bytes : List UInt8) : List (List UInt8) := (lines bytes).map chomp

/-- Lines with a line feed each. -/
def joinLines (ls : List (List UInt8)) : List UInt8 := ls.flatMap (· ++ [10])

/-! ## Options -/

/-- The options that a program knows: letters, letters that take a value, and long names of letters. -/
structure OptionTable where
  plain : String := ""
  valued : String := ""
  long : List (String × Char) := []

/-- The options that were given, in order, and the operands. -/
structure Options where
  given : List (Char × String) := []
  operands : List String := []

namespace Options

/-- Whether an option was given. -/
def has (o : Options) (c : Char) : Bool := o.given.any (·.1 == c)

/-- The value of an option, that of the last one if it was given again. -/
def value? (o : Options) (c : Char) : Option String := (o.given.reverse.find? (·.1 == c)).map (·.2)

/-- The last of some options that was given. -/
def last? (o : Options) (cs : List Char) : Option (Char × String) := o.given.reverse.find? fun g => cs.contains g.1

/-- One more option. -/
def add (o : Options) (c : Char) (value : String) : Options := { o with given := o.given ++ [(c, value)] }

end Options

namespace OptionTable

/-- The letters of an argument after its dash: the options so far, and the letter that waits for a
value. -/
def readLetters (t : OptionTable) (o : Options) : List Char → Except String (Options × Option Char)
  | [] => .ok (o, none)
  | c :: rest =>
    if t.valued.contains c then
      if rest.isEmpty then .ok (o, some c) else .ok (o.add c (String.ofList rest), none)
    else if t.plain.contains c then readLetters t (o.add c "") rest
    else .error s!"invalid option -- '{c}'"

/-- The long option of a name or of the start of one name only. -/
def long? (t : OptionTable) (name : String) : Option (String × Char) :=
  match t.long.find? (·.1 == name), t.long.filter (·.1.startsWith name) with
  | some l, _ => some l
  | none, [l] => some l
  | none, _ => none

/-- A long option, given the text after its dashes. -/
def readLong (t : OptionTable) (o : Options) (text : String) : Except String (Options × Option (String × Char)) :=
  let name := String.ofList (text.toList.takeWhile (· != '='))
  match t.long? name with
  | none => .error s!"unrecognized option '--{text}'"
  | some (full, c) =>
    if name.length == text.length then
      if t.valued.contains c then .ok (o, some (full, c)) else .ok (o.add c "", none)
    else if t.valued.contains c then .ok (o.add c (text.drop (name.length + 1)).toString, none)
    else .error s!"option '--{full}' doesn't allow an argument"

/-- The options and operands among arguments. An option that waits for its value takes the next
argument; two dashes end the options. -/
def readFrom (t : OptionTable) : Option (Char × String) → Options → List String → Except String Options
  | none, o, [] => .ok o
  | some (_, missing), _, [] => .error missing
  | some (c, _), o, a :: rest => readFrom t none (o.add c a) rest
  | none, o, a :: rest =>
    match a.toList with
    | ['-', '-'] => .ok { o with operands := o.operands ++ rest }
    | '-' :: '-' :: text =>
      match t.readLong o (String.ofList text) with
      | .error e => .error e
      | .ok (o, some (full, c)) => readFrom t (some (c, s!"option '--{full}' requires an argument")) o rest
      | .ok (o, none) => readFrom t none o rest
    | '-' :: c :: letters =>
      match t.readLetters o (c :: letters) with
      | .error e => .error e
      | .ok (o, some c) => readFrom t (some (c, s!"option requires an argument -- '{c}'")) o rest
      | .ok (o, none) => readFrom t none o rest
    | _ => readFrom t none { o with operands := o.operands ++ [a] } rest

/-- The options and operands among arguments. -/
def read (t : OptionTable) (args : List String) : Except String Options := t.readFrom none {} args

end OptionTable

/-- What a program does with its options, unless they do not fit. -/
def Scope.withOptions (sc : Scope) (t : OptionTable) (status : Nat) (f : Options → Result) : Result :=
  match t.read sc.args with
  | .ok o => f o
  | .error message => sc.misuse message status

/-! ## Files -/

/-- What is at each of some names, where a dash stands for the input; without names, the input. -/
def Scope.contents (sc : Scope) (names : List String) : List (String × Except OsError (List UInt8)) :=
  (if names.isEmpty then ["-"] else names).map fun n =>
    (n, if n == "-" then .ok sc.input else sc.files.read sc.here n)

/-- A program that turns the bytes of each of its files into output; a complaint is made in place of a
file that cannot be read. -/
def Scope.overFiles (sc : Scope) (names : List String) (status : Nat) (complaint : String → OsError → String)
    (f : String → List UInt8 → List UInt8) : Result :=
  (sc.contents names).foldl (fun (r : Result) (n, found) =>
    match found with
    | .ok bytes => { r with out := r.out ++ f n bytes }
    | .error e => r.complaining (sc.complaint (complaint n e)) status) (sc.done 0)

/-- The complaint about a file by its name. -/
def plainComplaint (name : String) (e : OsError) : String := s!"{name}: {e.words}"

/-- The complaint about a file that cannot be opened or read. -/
def openingComplaint (name : String) (e : OsError) : String :=
  if e == .isDirectory then s!"error reading '{name}': {e.words}"
  else s!"cannot open '{name}' for reading: {e.words}"

/-- A program that turns the bytes of all its files together into output. -/
def Scope.overAll (sc : Scope) (names : List String) (complaint : String → OsError → String)
    (f : List UInt8 → List UInt8) : Result :=
  let r := sc.overFiles names 1 complaint fun _ bytes => bytes
  { r with out := f r.out }

/-- A whole number with a sign. -/
def integer? (s : String) : Option Int :=
  match s.toList with
  | '-' :: ds => if !ds.isEmpty && ds.all Char.isDigit then s.toInt? else none
  | '+' :: ds => if !ds.isEmpty && ds.all Char.isDigit then (String.ofList ds).toInt? else none
  | ds => if !ds.isEmpty && ds.all Char.isDigit then s.toInt? else none

end Shakedown.Host.Utility
