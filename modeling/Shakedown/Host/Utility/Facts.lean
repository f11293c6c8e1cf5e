import Shakedown.Host.Condition
import Shakedown.Host.Format
import Shakedown.Host.Utility.Lines
import Shakedown.Host.Utility.Regular

/-!
# Programs that tell facts

Names of paths, values of expressions and conditions, variables, and facts about the system.
-/

namespace Shakedown.Host.Utility

/-! ## Names -/

/-- The last component of a path, and what stands before it; separators at the end do not count. -/
def splitLast (path : String) : List Char × List Char :=
  let rev := path.toList.reverse.dropWhile (· == '/')
  let name := rev.takeWhile (· != '/')
  (name.reverse, (rev.drop name.length).reverse)

/-- The last component of a path without an ending, unless that is all of it. -/
def baseName (path ending : String) : String :=
  if path.isEmpty then ""
  else
    let (name, _) := splitLast path
    if name.isEmpty then "/"
    else
      let name := String.ofList name
      if !ending.isEmpty && name != ending && name.endsWith ending then
        String.ofList (name.toList.take (name.length - ending.length))
      else name

/-- The directory that a path's last component is in. -/
def directoryName (path : String) : String :=
  let (name, before) := splitLast path
  if name.isEmpty then if path.isEmpty then "." else "/"
  else if before.isEmpty then "."
  else
    let dir := (before.reverse.dropWhile (· == '/')).reverse
    if dir.isEmpty then "/" else String.ofList dir

/-- The program that tells last components. -/
def baseNames (sc : Scope) : Result :=
  sc.withOptions { plain := "az", valued := "s", long := [("multiple", 'a'), ("suffix", 's')] } 1 fun o =>
    match o.operands with
    | [] => sc.misuse "missing operand" 1
    | names =>
      if o.has 'a' || o.has 's' then
        sc.put (names.flatMap fun n => bytesOf (baseName n ((o.value? 's').getD "") ++ "\n"))
      else
        match names with
        | _ :: _ :: extra :: _ => sc.misuse s!"extra operand {inQuotes extra}" 1
        | n :: rest => sc.put (bytesOf (baseName n (rest.headD "") ++ "\n"))
        | [] => sc.done 0

/-- The program that tells directories. -/
def directoryNames (sc : Scope) : Result :=
  sc.withOptions { plain := "z" } 1 fun o =>
    if o.operands.isEmpty then sc.misuse "missing operand" 1
    else sc.put (o.operands.flatMap fun n => bytesOf (directoryName n ++ "\n"))

/-- The program that tells paths from the root. -/
def realPaths (sc : Scope) : Result :=
  sc.withOptions { plain := "emqsz" } 1 fun o =>
    if o.operands.isEmpty then sc.misuse "missing operand" 1
    else
      o.operands.foldl (fun (r : Result) n =>
        match sc.files.find sc.here n with
        | .ok place => { r with out := r.out ++ bytesOf (sc.files.pathOf place ++ "\n") }
        | .error e =>
          match sc.files.find sc.here (directoryName n) with
          | .ok place =>
            let dir := sc.files.pathOf place
            { r with out := r.out ++ bytesOf ((if dir == "/" then dir else dir ++ "/") ++ baseName n "" ++ "\n") }
          | .error _ => r.complaining (sc.complaint (plainComplaint n e)) 1) (sc.done 0)

/-! ## Expressions -/

/-- Whether a value counts as none: an empty text, or a zero. -/
def isNull (value : String) : Bool :=
  value.isEmpty || match value.toList with
    | '-' :: rest => !rest.isEmpty && rest.all (· == '0')
    | cs => cs.all (· == '0')

/-- What is wrong with an expression. -/
abbrev ExpressionFault := String

/-- Reading an expression: the arguments left and the one before them. -/
structure Expression where
  rest : List String
  previous : String := ""

/-- The value of an expression, and what follows. -/
abbrev Evaluated := Except ExpressionFault (String × Expression)

/-- Two integers put together. -/
def arithmetic (op a b : String) : Except ExpressionFault String :=
  match integer? a, integer? b with
  | some x, some y =>
    match op with
    | "+" => .ok (toString (x + y))
    | "-" => .ok (toString (x - y))
    | "*" => .ok (toString (x * y))
    | _ =>
      if y == 0 then .error "division by zero"
      else .ok (toString (if op == "/" then x.tdiv y else x.tmod y))
  | _, _ => .error "non-integer argument"

/-- Two values held against each other, as numbers if both are. -/
def compared (op a b : String) : String :=
  let order := match integer? a, integer? b with
    | some x, some y => compare x y
    | _, _ => compare a b
  let holds : Bool := match op with
    | "<" => order == .lt
    | "<=" => order != .gt
    | "=" | "==" => order == .eq
    | "!=" => order != .eq
    | ">=" => order != .lt
    | _ => order == .gt
  if holds then "1" else "0"

/-- A text held against a pattern at its start: its first group, or the length of the match. -/
def matchedStart (text pattern : String) : String :=
  let r := Regular.ofChars false (charsOfText pattern)
  let hasGroup := (pattern.splitOn "\\(").length != 1
  match Regular.longestFrom false (.both (.at_ .lineStart) r) { rest := charsOfText text } with
  | some q =>
    if hasGroup then Text.Utf8.decodeLossy (ofChars ((q.groups.lookup 1).getD [])) else toString q.passed
  | none => if hasGroup then "" else "0"

/-- The operators of an expression by level, the loosest first. -/
def operatorLevels : List (List String) :=
  [["|"], ["&"], ["<", "<=", "=", "==", "!=", ">=", ">"], ["+", "-"], ["*", "/", "%"], [":"]]

/-- The value of two operands. -/
def combined (op a b : String) : Except ExpressionFault String :=
  if op == "|" then .ok (if !isNull a then a else if isNull b then "0" else b)
  else if op == "&" then .ok (if isNull a || isNull b then "0" else a)
  else if op == ":" then .ok (matchedStart a b)
  else if "+-*/%".contains op then arithmetic op a b
  else .ok (compared op a b)

mutual
/-- The value of an expression whose operators are of some levels. -/
def evaluateLevel : Nat → List (List String) → Expression → Evaluated
  | 0, _, _ => .error "syntax error"
  | fuel + 1, levels, e =>
    match levels with
    | [] => evaluateTerm fuel e
    | ops :: tighter =>
      match evaluateLevel fuel tighter e with
      | .error m => .error m
      | .ok (a, e) => evaluateMore fuel ops tighter a e

/-- The value of an operand with more operators of its level after it. -/
def evaluateMore : Nat → List String → List (List String) → String → Expression → Evaluated
  | 0, _, _, _, _ => .error "syntax error"
  | fuel + 1, ops, tighter, a, e =>
    match e.rest with
    | op :: rest =>
      if ops.contains op then
        match evaluateLevel fuel tighter ⟨rest, op⟩ with
        | .error m => .error m
        | .ok (b, e) =>
          match combined op a b with
          | .error m => .error m
          | .ok c => evaluateMore fuel ops tighter c e
      else .ok (a, e)
    | [] => .ok (a, e)

/-- The value of a term: a text, a parenthesis, or a function of texts. -/
def evaluateTerm : Nat → Expression → Evaluated
  | 0, _ => .error "syntax error"
  | fuel + 1, e =>
    match e.rest with
    | [] => .error s!"syntax error: missing argument after {inQuotes e.previous}"
    | "(" :: rest =>
      match evaluateLevel fuel operatorLevels ⟨rest, "("⟩ with
      | .error m => .error m
      | .ok (a, e) =>
        match e.rest with
        | ")" :: rest => .ok (a, ⟨rest, ")"⟩)
        | [] => .error s!"syntax error: expecting ')' after {inQuotes e.previous}"
        | other :: _ => .error s!"syntax error: expecting ')' instead of {inQuotes other}"
    | ")" :: _ => .error "syntax error: unexpected ')'"
    | "+" :: word :: rest => .ok (word, ⟨rest, word⟩)
    | word :: rest =>
      if word == "length" && !rest.isEmpty then
        match evaluateTerm fuel ⟨rest, word⟩ with
        | .error m => .error m
        | .ok (a, e) => .ok (toString a.utf8ByteSize, e)
      else if word == "match" || word == "index" then
        match evaluateTerm fuel ⟨rest, word⟩ with
        | .error m => .error m
        | .ok (a, e) =>
          match evaluateTerm fuel e with
          | .error m => .error m
          | .ok (b, e) =>
            .ok (if word == "match" then matchedStart a b
              else toString (((charsOfText a).findIdx? fun c => (charsOfText b).contains c).elim 0 (· + 1)), e)
      else if word == "substr" then
        match evaluateTerm fuel ⟨rest, word⟩ with
        | .error m => .error m
        | .ok (a, e) =>
          match evaluateTerm fuel e with
          | .error m => .error m
          | .ok (first, e) =>
            match evaluateTerm fuel e with
            | .error m => .error m
            | .ok (length, e) =>
              match integer? first, integer? length with
              | some i, some n =>
                let part := if i ≤ 0 || n ≤ 0 then [] else ((bytesOf a).drop (i.toNat - 1)).take n.toNat
                .ok (Text.Utf8.decodeLossy part, e)
              | _, _ => .ok ("", e)
      else .ok (word, ⟨rest, word⟩)
end

/-- The program that evaluates an expression. -/
def evaluate (sc : Scope) : Result :=
  let args := if sc.args.head? == some "--" then sc.args.drop 1 else sc.args
  if args.isEmpty then sc.misuse "missing operand" 2
  else
    match evaluateLevel (16 * (args.length + 2)) operatorLevels ⟨args, ""⟩ with
    | .error message => sc.complain message 2
    | .ok (value, e) =>
      match e.rest with
      | other :: _ => sc.complain s!"syntax error: unexpected argument {inQuotes other}" 2
      | [] => { sc.put (bytesOf (value ++ "\n")) with status := if isNull value then 1 else 0 }

/-- What a condition of `test` or `[` leads to. -/
def condition (sc : Scope) : Result :=
  let args := if sc.name == "[" then
      if sc.args.getLast? == some "]" then some sc.args.dropLast else none
    else some sc.args
  match args with
  | none => sc.complain "missing ']'" 2
  | some args =>
    match Condition.decide? ⟨sc.files, sc.here, true⟩ args with
    | .ok b => sc.done (if b then 0 else 1)
    | .error (.number t) => sc.complain s!"invalid integer '{t}'" 2
    | .error (.unexpected t) =>
      match args with
      | [a, _] => sc.complain s!"'{a}': unary operator expected" 2
      | [_, b, _] => sc.complain s!"'{b}': binary operator expected" 2
      | _ => sc.complain s!"extra argument '{t}'" 2
    | .error (.missing t) => sc.complain s!"missing argument after '{t}'" 2
    | .error .unclosed => sc.complain "')' expected" 2

/-! ## Facts -/

/-- Variables, one in a line. -/
def variableLines (variables_ : List (String × String)) : List UInt8 :=
  variables_.flatMap fun (k, v) => bytesOf s!"{k}={v}\n"

/-- The program that prints variables. -/
def printVariables (sc : Scope) : Result :=
  sc.withOptions { plain := "0" } 2 fun o =>
    if o.operands.isEmpty then sc.put (variableLines sc.environment)
    else
      o.operands.foldl (fun (r : Result) n =>
        match sc.environment.lookup n with
        | some v => { r with out := r.out ++ bytesOf (v ++ "\n") }
        | none => { r with status := 1 }) (sc.done 0)

/-- The program that tells the user and groups, which are those of the administrator. -/
def identity (sc : Scope) : Result :=
  sc.withOptions { plain := "ugGnr", long := [("user", 'u'), ("group", 'g'), ("groups", 'G'), ("name", 'n')] } 1 fun o =>
    if o.has 'u' || o.has 'g' || o.has 'G' then sc.put (bytesOf (if o.has 'n' then "root\n" else "0\n"))
    else sc.put (bytesOf "uid=0(root) gid=0(root) groups=0(root)\n")

/-- The program that tells which files names stand for. -/
def which (sc : Scope) : Result :=
  sc.withOptions { plain := "a" } 2 fun o =>
    let dirs := ((sc.environment.lookup "PATH").getD "").splitOn ":"
    let place? (n : String) : Option String :=
      if n.contains '/' then if sc.files.isExecutable sc.here n then some n else none
      else (dirs.map fun d => if d.isEmpty then "./" ++ n else d ++ "/" ++ n).find? fun p => sc.files.isExecutable sc.here p
    o.operands.foldl (fun (r : Result) n =>
      match place? n with
      | some p => { r with out := r.out ++ bytesOf (p ++ "\n") }
      | none => { r with status := 1 }) (sc.done 0)

/-- The signal that a name, with `SIG` or without, or a number names. -/
def signalOf (s : String) : Option Nat :=
  Signal.number? (if s.startsWith "SIG" then (s.drop 3).toString else s)

/-- The program that sends signals. -/
def kill (sc : Scope) : Result :=
  let (signal, rest) := match sc.args with
    | "-s" :: s :: rest => (signalOf s, rest)
    | a :: rest => if a.startsWith "-" && a != "--" then (signalOf (a.drop 1).toString, rest) else (some 15, a :: rest)
    | [] => (some 15, [])
  match signal with
  | none => sc.complain "unknown signal" 1
  | some n => { sc.done 0 with signals := (rest.filterMap integer?).map fun t => (t.toNat, n) }

/-- The number of bytes and of lines that two files have in common at their starts, if they differ there. -/
def firstDifference : Nat → Nat → List UInt8 → List UInt8 → Option (Nat × Nat)
  | byte, line, a :: as, b :: bs =>
    if a != b then some (byte, line) else firstDifference (byte + 1) (if a == 10 then line + 1 else line) as bs
  | _, _, _, _ => none

/-- The program that compares two files. -/
def compareFiles (sc : Scope) : Result :=
  sc.withOptions { plain := "sl", long := [("silent", 's'), ("quiet", 's')] } 2 fun o =>
    match o.operands with
    | [] =>
      { sc.complain s!"missing operand after {inQuotes sc.own}" 2 with
        err := sc.complaint s!"missing operand after {inQuotes sc.own}" ++
          sc.complaint s!"Try '{sc.own} --help' for more information." }
    | a :: rest =>
      let b := rest.headD "-"
      let read (n : String) : Except OsError (List UInt8) := if n == "-" then .ok sc.input else sc.files.read sc.here n
      match read a, read b with
      | .error e, _ => { sc.complain (plainComplaint a e) 2 with err := if o.has 's' then [] else sc.complaint (plainComplaint a e) }
      | _, .error e => { sc.complain (plainComplaint b e) 2 with err := if o.has 's' then [] else sc.complaint (plainComplaint b e) }
      | .ok x, .ok y =>
        match firstDifference 1 1 x y with
        | some (byte, line) =>
          { sc.put (if o.has 's' then [] else bytesOf s!"{a} {b} differ: char {byte}, line {line}\n") with status := 1 }
        | none =>
          if x.length == y.length then sc.done 0
          else
            let (short, bytes) := if x.length < y.length then (a, x) else (b, y)
            let ls := (bytes.filter (· == 10)).length
            let place := if bytes.isEmpty then s!"{sc.own}: EOF on {short} which is empty\n"
              else if bytes.getLast? == some 10 then s!"{sc.own}: EOF on {short} after byte {bytes.length}, line {ls}\n"
              else s!"{sc.own}: EOF on {short} after byte {bytes.length}, in line {ls + 1}\n"
            { sc.done 1 with err := if o.has 's' then [] else bytesOf place }

/-- The program that records a terminal session; without a terminal the session ends at once. -/
def recordSession (sc : Scope) : Result :=
  let out := "Script started, output log file is 'typescript'.\n# \nScript done.\n"
  let files := match sc.files.write sc.here "typescript" (bytesOf out) with
    | .ok files => files
    | .error _ => sc.files
  { files := files, out := bytesOf out }

end Shakedown.Host.Utility
