import Shakedown.Host.Files
import Shakedown.Host.Shell.Arithmetic
import Shakedown.Host.Shell.Parser
import Shakedown.Host.Shell.Pattern

/-!
# Shell expansion

Words become fields: parameters, command substitutions and arithmetic are replaced, what is not
quoted is split at blanks and matched against file names, and quotes are removed. The output of a
command substitution comes from outside: expansion stops where one is needed and is begun anew once
it is known.
-/

namespace Shakedown.Host.Shell

/-- What expansion reads of a shell. In an assignment a tilde also stands for a directory after a colon. -/
structure Scope where
  vars : List (String × String)
  name : String
  args : List String
  status : Nat
  number : Nat
  lastJob : Option Nat
  refusesUnset : Bool
  switches : String
  locked : List String
  files : Files
  here : Place
  isAssigning : Bool := false

/-- Why expansion stops: the output of a script is needed, or there is no value. -/
inductive Halt where
  | needs (script : List Char) (line : Nat)
  | bad (message : String)
deriving Repr

/-- The variables as expansion changes them, and the outputs of substitutions to come. -/
structure Progress where
  vars : List (String × String)
  outputs : List String

/-- Expansion. -/
abbrev Expanding := StateT Progress (Except Halt)

/-- Characters with the mark of a quote. -/
abbrev Marked := List (Char × Bool)

/-- A piece of a word: characters of the current field, characters that are split, the border
between two fields, or nothing that makes a field. -/
inductive Piece where
  | chars (cs : Marked)
  | split (cs : List Char)
  | border
  | absent
deriving Repr

/-- Characters all marked alike. -/
def mark (quoted : Bool) (cs : List Char) : Marked := cs.map fun c => (c, quoted)

/-- A variable is set. -/
def setVariable (name value : String) (vars : List (String × String)) : List (String × String) :=
  (name, value) :: vars.filter (·.1 != name)

/-- The separator that joins arguments into one text. -/
def joiner (vars : List (String × String)) : String :=
  match vars.lookup "IFS" with
  | some ifs => (ifs.take 1).toString
  | none => " "

/-- The value of a parameter, if it is set. -/
def valueOf (sc : Scope) (vars : List (String × String)) (name : String) : Option String :=
  match name with
  | "@" | "*" => if sc.args.isEmpty then none else some ((joiner vars).intercalate sc.args)
  | "#" => some (toString sc.args.length)
  | "?" => some (toString sc.status)
  | "$" => some (toString sc.number)
  | "!" => sc.lastJob.map toString
  | "-" => some sc.switches
  | _ =>
    match name.toNat? with
    | some 0 => some sc.name
    | some (n + 1) => sc.args[n]?
    | none => vars.lookup name

/-- The text that a marked text stands for. -/
def unmark (cs : Marked) : String := String.ofList (cs.map (·.1))

/-- The lengths at which the start of a text matches a pattern. -/
def matchingLengths (items : List PatternItem) (cs : List Char) : List Nat :=
  (List.range (cs.length + 1)).filter fun n => matchesAll items (cs.take n)

/-- A text without a part at its start that matches a pattern. -/
def dropStart (longest : Bool) (items : List PatternItem) (cs : List Char) : List Char :=
  let found := matchingLengths items cs
  match (if longest then found.getLast? else found.head?) with
  | some n => cs.drop n
  | none => cs

/-- A text without a part at its end that matches a pattern. -/
def dropEnd (longest : Bool) (items : List PatternItem) (cs : List Char) : List Char :=
  let found := (List.range (cs.length + 1)).filter fun n => matchesAll items (cs.drop n)
  match (if longest then found.head? else found.getLast?) with
  | some n => cs.take n
  | none => cs

/-- All characters of pieces, as one text. -/
def flatten (pieces : List Piece) : Marked :=
  pieces.flatMap fun p =>
    match p with
    | .chars cs => cs
    | .split cs => mark false cs
    | .border => [(' ', false)]
    | .absent => []

/-- The pieces of arguments that stay apart. -/
def apart (quoted : Bool) : List String → List Piece
  | [] => [.absent]
  | [a] => [if quoted then .chars (mark true a.toList) else .split a.toList]
  | a :: rest => (if quoted then .chars (mark true a.toList) else .split a.toList) :: .border :: apart quoted rest

/-- The output of the next command substitution. -/
def nextOutput (script : List Char) (line : Nat) : Expanding String := do
  match (← get).outputs with
  | out :: rest =>
    modify fun p => { p with outputs := rest }
    return out
  | [] => throw (.needs script line)

/-- The parts of an enclosed text, or of one that is not. -/
def partsOf (enclosure : Option Enclosure) (cs : List Char) : Expanding Word :=
  match wholeWord enclosure cs with
  | some w => pure w
  | none => throw (.bad "Bad substitution")

/-- The parts of an operand's text. -/
def operandParts (quoted : Bool) (cs : List Char) : Expanding Word :=
  partsOf (if quoted then some .operand else none) cs

/-- A value as a piece. -/
def valuePiece (quoted : Bool) (value : String) : Piece :=
  if quoted then .chars (mark true value.toList) else .split value.toList

/-- A word with a home directory in place of a tilde before its first separator: that of the variable, or
that of the one user whose name is known. -/
def atHome (vars : List (String × String)) (w : Word) : Word :=
  match w with
  | .literal ('~' :: text) false :: more =>
    let user := text.takeWhile (· != '/')
    let rest := text.drop user.length
    let home := if user.isEmpty then vars.lookup "HOME"
      else if user == ['r', 'o', 'o', 't'] then some "/root" else none
    match home with
    | some home =>
      if rest.isEmpty && !more.isEmpty then w
      else
        let remaining := if rest.isEmpty then more else .literal rest false :: more
        if home.isEmpty then remaining else .literal home.toList true :: remaining
    | none => w
  | _ => w

/-- The parts of a word between its colons that are not quoted. -/
def betweenColons : Word → List Word
  | [] => [[]]
  | part :: rest =>
    let others := betweenColons rest
    let (next, more) := (others.headD [], others.drop 1)
    match part with
    | .literal text false =>
      let texts := ((String.ofList text).splitOn ":").map fun s => Part.literal s.toList false
      texts.dropLast.map ([·]) ++ ((texts.getLast?.toList ++ next) :: more)
    | _ => (part :: next) :: more

/-- A word with home directories in place of tildes: one at its start and, in an assignment, also after
colons. -/
def atHomes (sc : Scope) (vars : List (String × String)) (w : Word) : Word :=
  if sc.isAssigning then
    [Part.literal [':'] false].intercalate ((betweenColons w).map (atHome vars))
  else atHome vars w

/-- The pieces of parts. -/
def pieces (sc : Scope) : Nat → List Part → Expanding (List Piece)
  | 0, _ => throw (.bad "Bad substitution")
  | _ + 1, [] => pure []
  | fuel + 1, part :: rest => do
    let first ← match part with
      | .literal cs quoted => pure [Piece.chars (mark quoted cs)]
      | .command script line quoted =>
        let out ← nextOutput script line
        pure [valuePiece quoted out]
      | .arithmetic expression quoted => do
        let inner ← pieces sc fuel (← partsOf (some .document) expression)
        let p ← get
        let known := (sc.args.zipIdx.map fun ai => (toString (ai.2 + 1), ai.1)) ++ p.vars
        match evaluate known (flatten inner |>.map (·.1)) with
        | .ok (n, vars) =>
          match sc.locked.find? fun n => vars.lookup n != known.lookup n with
          | some n => throw (.bad s!"{n}: is read only")
          | none => pure ()
          set { p with vars := vars.filter fun v => v.1.toNat?.isNone }
          pure [valuePiece quoted (toString n)]
        | .error message => throw (.bad message)
      | .parameter name operator operand quoted => do
        let value := valueOf sc (← get).vars name
        let isNull := (value.getD "").isEmpty
        let isMissing := if operator.startsWith ":" then isNull else value.isNone
        let whole := if name == "@" then apart quoted sc.args
          else if name == "*" && !quoted then apart false sc.args
          else match value with
            | some v => [valuePiece quoted v]
            | none => [if quoted then Piece.chars [] else .split []]
        if sc.refusesUnset && value.isNone && name != "@" && name != "*" &&
            !(["-", ":-", "=", ":=", "+", ":+", "?", ":?", "bad"].contains operator) then
          throw (.bad s!"{name}: parameter not set")
        match operator with
        | "" => pure whole
        | "bad" => throw (.bad "Bad substitution")
        | "length" => pure [valuePiece quoted (toString (value.getD "").length)]
        | ":-" | "-" =>
          if isMissing then do
            let w ← operandParts quoted operand
            pieces sc fuel (atHomes sc (← get).vars w)
          else pure whole
        | ":+" | "+" =>
          if isMissing then pure [if quoted then Piece.chars [] else .split []]
          else do
            let w ← operandParts quoted operand
            pieces sc fuel (atHomes sc (← get).vars w)
        | ":=" | "=" =>
          if isMissing then do
            let w ← operandParts quoted operand
            let inner ← pieces sc fuel (atHome (← get).vars w)
            let value := unmark (flatten inner)
            if sc.locked.contains name then throw (.bad s!"{name}: is read only")
            modify fun p => { p with vars := setVariable name value p.vars }
            pure [valuePiece quoted value]
          else pure whole
        | ":?" | "?" =>
          if isMissing then do
            let w ← operandParts quoted operand
            let inner ← pieces sc fuel (atHome (← get).vars w)
            let message := unmark (flatten inner)
            let told := if message.isEmpty then "parameter not set" else message
            throw (.bad s!"{name}: {told}")
          else pure whole
        | _ => do
          let w ← operandParts false operand
          let inner ← pieces sc fuel (atHome (← get).vars w)
          let items := pattern (flatten inner)
          let cs := (value.getD "").toList
          let kept := match operator with
            | "#" => dropStart false items cs
            | "##" => dropStart true items cs
            | "%" => dropEnd false items cs
            | _ => dropEnd true items cs
          pure [valuePiece quoted (String.ofList kept)]
    return first ++ (← pieces sc fuel rest)

/-- The bound on the depth and length of an expansion. -/
def expansionFuel : Nat := 4096

/-- A word as one text, without splitting. -/
def expandText (sc : Scope) (w : Word) : Expanding Marked := do
  let w := atHomes sc (← get).vars w
  return flatten (← pieces sc expansionFuel w)

/-- A field that is being put together, in reverse, and those before it, the latest first. -/
structure Assembly where
  done : List Marked := []
  current : Option Marked := none

/-- The assembly with its current field ended. -/
def Assembly.close (a : Assembly) : Assembly :=
  match a.current with
  | some f => ⟨f.reverse :: a.done, none⟩
  | none => a

/-- The assembly with a character that is split at. -/
def Assembly.addSplit (separators : List Char) (a : Assembly) (c : Char) : Assembly :=
  if separators.contains c then
    if c == ' ' || c == '\t' || c == '\n' then a.close
    else { a with current := some (a.current.getD []) }.close
  else { a with current := some ((c, false) :: a.current.getD []) }

/-- The assembly with a piece. -/
def Assembly.add (separators : List Char) (a : Assembly) : Piece → Assembly
  | .chars cs => { a with current := some (cs.reverse ++ a.current.getD []) }
  | .split cs => cs.foldl (Assembly.addSplit separators) a
  | .border => a.close
  | .absent => a

/-- The fields of pieces. -/
def fields (separators : List Char) (ps : List Piece) : List Marked :=
  (ps.foldl (Assembly.add separators) {}).close.done.reverse

/-- The pieces of a word without the empty literal that only a quoted list of no arguments leaves. -/
def dropEmptyList (ps : List Piece) : List Piece :=
  if ps.any (fun p => match p with | .absent => true | _ => false) &&
      ps.all (fun p => match p with | .absent => true | .chars [] => true | _ => false) then []
  else ps

/-- The segments of a marked path. -/
def markedSegments : Marked → List Marked
  | [] => [[]]
  | (c, q) :: rest =>
    if c == '/' then [] :: markedSegments rest
    else
      match markedSegments rest with
      | s :: more => ((c, q) :: s) :: more
      | [] => [[(c, q)]]

/-- The names in a directory; the empty path is the current one. -/
def namesIn (files : Files) (here : Place) (path : String) : List String :=
  match files.find here (if path.isEmpty then "." else path) with
  | .ok place =>
    match files.entries (place.headD 0) with
    | .ok es => es.map (·.1)
    | .error _ => []
  | .error _ => []

/-- The paths below a start that match segments. -/
def matchPaths (files : Files) (here : Place) : List Marked → List String → List String
  | [], found => found
  | segment :: rest, found =>
    let extend (start name : String) : String :=
      if start.isEmpty || start.endsWith "/" then start ++ name else start ++ "/" ++ name
    let next := if segment.isEmpty then found.map fun start => if start.endsWith "/" then start else start ++ "/"
      else if hasWildcards segment then
        found.flatMap fun start =>
          let names := (namesIn files here start).filter fun (n : String) =>
            matchesAll (pattern segment) n.toList && (!n.startsWith "." || segment.head? == some ('.', false))
          (names.mergeSort (fun a b => decide (a ≤ b))).map (extend start)
      else (found.map fun start => extend start (unmark segment)).filter fun p => files.doesExist here p
    matchPaths files here rest next

/-- The texts of a field: the file names that it matches, or itself. -/
def globbed (sc : Scope) (f : Marked) : List String :=
  if hasWildcards f && !sc.switches.contains 'f' then
    let found := if (f.head?.map (·.1)) == some '/' then matchPaths sc.files sc.here (markedSegments (f.drop 1)) ["/"]
      else matchPaths sc.files sc.here (markedSegments f) [""]
    if found.isEmpty then [unmark f] else found
  else [unmark f]

/-- The fields of words. -/
def expandWords (sc : Scope) : List Word → Expanding (List String)
  | [] => pure []
  | w :: rest => do
    let ps ← pieces sc expansionFuel (atHome (← get).vars w)
    let separators := (((← get).vars.lookup "IFS").getD " \t\n").toList
    let first := (fields separators (dropEmptyList ps)).flatMap (globbed sc)
    return first ++ (← expandWords sc rest)

/-- Whether a word is written like an assignment. -/
def isAssignment (w : Word) : Bool :=
  match w with
  | .literal text false :: _ => text.contains '=' && isName (String.ofList (text.takeWhile (· != '=')))
  | _ => false

/-- A word that is written like an assignment, divided after the equals sign. -/
def divided (w : Word) : String × Word :=
  match w with
  | .literal text false :: more =>
    let name := text.takeWhile (· != '=')
    let value := text.drop (name.length + 1)
    (String.ofList name ++ "=", if value.isEmpty then more else .literal value false :: more)
  | _ => ("", w)

/-- The commands whose arguments may be assignments. -/
def assigningCommands : List String := ["alias", "export", "local", "readonly"]

/-- Whether the fields of a command so far name one whose arguments may be assignments. -/
def isAssigningCommand : List String → Bool
  | "command" :: rest =>
    match rest.find? fun a => a != "-p" && a != "--" with
    | some name => assigningCommands.contains name
    | none => false
  | name :: _ => assigningCommands.contains name
  | [] => false

/-- The fields of a command's words, after those that are known: an argument that is an assignment is
neither split nor matched against file names. -/
def expandArguments (sc : Scope) (known : List String) : List Word → Expanding (List String)
  | [] => pure known
  | w :: rest => do
    if isAssigningCommand known && isAssignment w then
      let (name, value) := divided w
      let text ← expandText { sc with isAssigning := true } value
      expandArguments sc (known ++ [name ++ unmark text]) rest
    else
      let more ← expandWords sc [w]
      expandArguments sc (known ++ more) rest

end Shakedown.Host.Shell
