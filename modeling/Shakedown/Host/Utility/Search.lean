import Shakedown.Host.Utility.Lines
import Shakedown.Host.Utility.Regular

/-!
# Programs that search and edit

Lines that match a pattern, and lines that a script edits.
-/

namespace Shakedown.Host.Utility

/-! ## Searching -/

/-- The options of `grep`. -/
def searchOptions : OptionTable :=
  { plain := "EFGPivyclLnoqswxhHrRbazUu", valued := "efmABC",
    long := [("extended-regexp", 'E'), ("fixed-strings", 'F'), ("basic-regexp", 'G'), ("ignore-case", 'i'),
      ("invert-match", 'v'), ("count", 'c'), ("files-with-matches", 'l'), ("files-without-match", 'L'),
      ("line-number", 'n'), ("only-matching", 'o'), ("quiet", 'q'), ("silent", 'q'), ("no-messages", 's'),
      ("word-regexp", 'w'), ("line-regexp", 'x'), ("no-filename", 'h'), ("with-filename", 'H'), ("regexp", 'e'),
      ("max-count", 'm'), ("after-context", 'A'), ("before-context", 'B'), ("context", 'C')] }

/-- The expression that options and the lines of a pattern write. -/
def searchExpression (o : Options) (patterns : List String) : Regular :=
  let one (cs : List Char) : Regular :=
    let r := if o.has 'F' then Regular.exactly cs else Regular.ofChars (o.has 'E') cs
    if o.has 'x' then r.asLine else if o.has 'w' then r.asWord else r
  match (patterns.flatMap (·.splitOn "\n")).map fun p => one (charsOfText p) with
  | [] => .empty
  | first :: rest => rest.foldl .either first

/-- A line with its number, and whether it was selected. -/
structure Selection where
  number : Nat
  line : List UInt8
  isSelected : Bool

/-- The lines of a file, of which at most so many are selected. -/
def selections (holds : List UInt8 → Bool) : Option Nat → Nat → List (List UInt8) → List Selection
  | _, _, [] => []
  | some 0, _, _ => []
  | most, n, l :: rest =>
    if holds l then ⟨n, l, true⟩ :: selections holds (most.map (· - 1)) (n + 1) rest
    else ⟨n, l, false⟩ :: selections holds most (n + 1) rest

/-- The lines that are shown: those selected, and some before and after them. Where a gap is between them,
there is none. -/
def withContext (before after : Nat) (all : List Selection) : List (Option Selection) :=
  let chosen := all.filterMap fun s => if s.isSelected then some s.number else none
  let isShown (s : Selection) : Bool := chosen.any fun n => n ≤ s.number + before && s.number ≤ n + after
  let step (r : List (Option Selection) × Option Nat) (s : Selection) : List (Option Selection) × Option Nat :=
    if isShown s then
      let gap := r.2.any fun n => n + 1 < s.number
      (r.1 ++ (if gap && 0 < before + after then [none, some s] else [some s]), some s.number)
    else r
  (all.foldl step ([], none)).1

/-- The program that shows the lines that match. -/
def search (sc : Scope) : Result :=
  match searchOptions.read sc.args with
  | .error message =>
    { files := sc.files, status := 2,
      err := sc.complaint message ++
        bytesOf s!"Usage: {sc.own} [OPTION]... PATTERNS [FILE]...\nTry '{sc.own} --help' for more information.\n" }
  | .ok o =>
    let given := (o.given.filter (·.1 == 'e')).map (·.2)
    match (if given.isEmpty then o.operands.head?.map fun p => ([p], o.operands.drop 1) else some (given, o.operands)) with
    | none =>
      { files := sc.files, status := 2,
        err := bytesOf s!"Usage: {sc.own} [OPTION]... PATTERNS [FILE]...\nTry '{sc.own} --help' for more information.\n" }
    | some (patterns, names) =>
      let r := searchExpression o patterns
      let folds := o.has 'i' || o.has 'y'
      let start (l : List UInt8) : Regular.Position := { rest := charsOf l }
      let holds (l : List UInt8) : Bool := (r.find? folds (start l)).isSome != o.has 'v'
      let number (c : Char) : Nat := (((o.value? c).or (o.value? 'C')).bind String.toNat?).getD 0
      let most := (o.value? 'm').bind String.toNat?
      let label (n : String) (sign : String) : List UInt8 :=
        if (1 < names.length || o.has 'H') && !o.has 'h' then
          bytesOf ((if n == "-" then "(standard input)" else n) ++ sign)
        else []
      let place (s : Selection) (sign : String) : List UInt8 :=
        if o.has 'n' then bytesOf (toString s.number ++ sign) else []
      let shown (n : String) (all : List Selection) : List UInt8 :=
        if o.has 'o' then
          (all.filter (·.isSelected)).flatMap fun s =>
            if o.has 'v' then []
            else (r.allFrom folds (s.line.length + 1) (start s.line)).flatMap fun text =>
              label n ":" ++ place s ":" ++ ofChars text ++ [10]
        else
          (withContext (number 'B') (number 'A') all).flatMap fun s? =>
            match s? with
            | none => bytesOf "--\n"
            | some s =>
              let sign := if s.isSelected then ":" else "-"
              label n sign ++ place s sign ++ s.line ++ [10]
      let report (n : String) (all : List Selection) : List UInt8 :=
        let found := (all.filter (·.isSelected)).length
        let name := bytesOf (if n == "-" then "(standard input)" else n)
        if o.has 'q' then []
        else if o.has 'l' then if 0 < found then name ++ [10] else []
        else if o.has 'L' then if 0 < found then [] else name ++ [10]
        else if o.has 'c' then label n ":" ++ bytesOf (toString found ++ "\n")
        else shown n all
      let (result, any) := (sc.contents names).foldl (fun (s : Result × Bool) (n, found) =>
        match found with
        | .ok bytes =>
          let all := selections holds most 1 (bareLines bytes)
          ({ s.1 with out := s.1.out ++ report n all }, s.2 || all.any (·.isSelected))
        | .error e => (s.1.complaining (if o.has 's' then [] else sc.complaint (plainComplaint n e)) 2, s.2))
          (sc.done 0, false)
      { result with status := if any && (result.status == 0 || o.has 'q') then 0 else max result.status 1 }

/-! ## Editing -/

/-- Which lines a command is about. -/
inductive Address where
  | line (n : Nat)
  | last
  | pattern (r : Regular) (folds : Bool)
  | every (first step : Nat)
  | further (lines : Nat)
deriving Repr

/-- What a command does. -/
inductive Edit where
  | substitute (r : Regular) (folds : Bool) (target : List Char) (isGlobal : Bool) (nth : Nat) (prints : Bool)
  | print
  | delete
  | quit
  | number
  | transliterate (source target : List Char)
  | append (text : List Char)
  | insert (text : List Char)
  | change (text : List Char)
  | holdCopy
  | holdAppend
  | getCopy
  | getAppend
  | exchange
  | next
deriving Repr

/-- A command with its addresses: none, one, or the first and last lines of ranges. -/
structure Command where
  first : Option Address := none
  last : Option Address := none
  isNegated : Bool := false
  edit : Edit
deriving Repr

/-- Characters up to a delimiter, which a backslash keeps from ending them, and what follows. -/
def delimited? (delimiter : Char) (rev : List Char) : List Char → Option (List Char × List Char)
  | [] => none
  | '\\' :: c :: rest =>
    if c == delimiter then delimited? delimiter (c :: rev) rest else delimited? delimiter (c :: '\\' :: rev) rest
  | c :: rest => if c == delimiter then some (rev.reverse, rest) else delimited? delimiter (c :: rev) rest

/-- An address, and what follows. -/
def address? (extended : Bool) (cs : List Char) : Option (Address × List Char) :=
  match cs with
  | '$' :: rest => some (.last, rest)
  | '/' :: rest =>
    (delimited? '/' [] rest).map fun (text, rest) =>
      let folds := rest.head? == some 'I'
      (.pattern (Regular.ofChars extended text) folds, if folds then rest.drop 1 else rest)
  | c :: _ =>
    if c.isDigit then
      let digits := cs.takeWhile Char.isDigit
      let n := digits.foldl (fun n d => n * 10 + (d.toNat - 48)) 0
      match cs.drop digits.length with
      | '~' :: rest =>
        let step := rest.takeWhile Char.isDigit
        some (.every n (step.foldl (fun n d => n * 10 + (d.toNat - 48)) 0), rest.drop step.length)
      | rest => some (.line n, rest)
    else none
  | [] => none

/-- The address at which a range ends: one of its own, or some lines further on. -/
def lastAddress? (extended : Bool) (cs : List Char) : Option (Address × List Char) :=
  match cs with
  | '+' :: rest =>
    let digits := rest.takeWhile Char.isDigit
    if digits.isEmpty then none
    else some (.further (digits.foldl (fun n d => n * 10 + (d.toNat - 48)) 0), rest.drop digits.length)
  | cs => address? extended cs

/-- Characters without blanks before them. -/
def afterBlanks (cs : List Char) : List Char := cs.dropWhile fun c => c == ' ' || c == '\t'

/-- The edit that a substitution writes after its letter, and what follows. A fault comes with the number of
characters left. -/
def substitution? (extended : Bool) (cs : List Char) : Except (String × Nat) (Edit × List Char) :=
  match cs with
  | [] => .error ("unterminated `s' command", 0)
  | delimiter :: rest =>
    match delimited? delimiter [] rest with
    | none => .error ("unterminated `s' command", 0)
    | some (source, rest) =>
      match delimited? delimiter [] rest with
      | none => .error ("unterminated `s' command", 0)
      | some (target, rest) =>
        let flags := rest.takeWhile fun c => "gpiI".toList.contains c || c.isDigit
        let digits := flags.filter Char.isDigit
        match afterBlanks (rest.drop flags.length) with
        | c :: _ =>
          if c == ';' || c == '\n' || c == '\x7d' || c == '#' then
            .ok (make source target flags digits, afterBlanks (rest.drop flags.length))
          else .error ("unknown option to `s'", (rest.drop (flags.length + 1)).length)
        | [] => .ok (make source target flags digits, [])
where
  /-- The substitution of a source by a target. -/
  make (source target flags digits : List Char) : Edit :=
    .substitute (Regular.ofChars extended source) (flags.contains 'i' || flags.contains 'I') target (flags.contains 'g')
      (digits.foldl (fun n d => n * 10 + (d.toNat - 48)) 0) (flags.contains 'p')

/-- The text of a command that adds lines, and what follows. -/
def addedText (cs : List Char) : List Char × List Char :=
  let cs := afterBlanks cs
  let cs := match cs with
    | '\\' :: '\n' :: rest => rest
    | '\\' :: rest => rest
    | cs => cs
  let text := cs.takeWhile (· != '\n')
  (text, cs.drop text.length)

/-- The edit of a command's letter, given what follows it, and what follows the command. A fault comes with
the number of characters left. -/
def edit? (extended : Bool) (letter : Char) (rest : List Char) : Except (String × Nat) (Edit × List Char) :=
  match letter with
  | 's' => substitution? extended rest
  | 'p' => .ok (.print, rest)
  | 'd' => .ok (.delete, rest)
  | 'q' => .ok (.quit, rest)
  | '=' => .ok (.number, rest)
  | 'h' => .ok (.holdCopy, rest)
  | 'H' => .ok (.holdAppend, rest)
  | 'g' => .ok (.getCopy, rest)
  | 'G' => .ok (.getAppend, rest)
  | 'x' => .ok (.exchange, rest)
  | 'n' => .ok (.next, rest)
  | 'a' => let (text, rest) := addedText rest; .ok (.append text, rest)
  | 'i' => let (text, rest) := addedText rest; .ok (.insert text, rest)
  | 'c' => let (text, rest) := addedText rest; .ok (.change text, rest)
  | 'y' =>
    match rest with
    | [] => .error ("unterminated `y' command", 0)
    | delimiter :: rest =>
      match delimited? delimiter [] rest with
      | none => .error ("unterminated `y' command", 0)
      | some (source, rest) =>
        match delimited? delimiter [] rest with
        | none => .error ("unterminated `y' command", 0)
        | some (target, rest) =>
          if source.length != target.length then
            .error ("strings for `y' command are different lengths", rest.length)
          else .ok (.transliterate source target, rest)
  | c => .error (s!"unknown command: `{c}'", rest.length)

/-- The commands of a script; a fault comes with the number of characters left. -/
def commands (extended : Bool) : Nat → List Char → Except (String × Nat) (List Command)
  | 0, _ => .ok []
  | fuel + 1, cs =>
    match cs.dropWhile fun c => c == ' ' || c == '\t' || c == '\n' || c == ';' with
    | [] => .ok []
    | '#' :: rest => commands extended fuel (rest.dropWhile (· != '\n'))
    | cs => do
      let (first, cs) := match address? extended cs with
        | some (a, rest) => (some a, afterBlanks rest)
        | none => (none, cs)
      let (last, cs) ← match first, cs with
        | some _, ',' :: rest =>
          match lastAddress? extended (afterBlanks rest) with
          | some (a, rest) => pure (some a, afterBlanks rest)
          | none => throw ("unexpected `,'", rest.length)
        | _, cs => pure (none, cs)
      let isNegated := cs.head? == some '!'
      match (if isNegated then afterBlanks (cs.drop 1) else cs) with
      | [] => throw ("missing command", 0)
      | letter :: rest =>
        match edit? extended letter rest with
        | .error fault => throw fault
        | .ok (edit, rest) =>
          match afterBlanks rest with
          | c :: _ =>
            if c == ';' || c == '\n' || c == '#' then
              return ⟨first, last, isNegated, edit⟩ :: (← commands extended fuel (afterBlanks rest))
            else throw ("extra characters after command", (afterBlanks rest).length - 1)
          | [] => return [⟨first, last, isNegated, edit⟩]

/-- The text that a target stands for, given the match. -/
def replacement (whole : List Char) (groups : List (Nat × List Char)) : List Char → List Char
  | [] => []
  | '\\' :: c :: rest =>
    if c.isDigit then
      (if c == '0' then whole else (groups.lookup (c.toNat - 48)).getD []) ++ replacement whole groups rest
    else if c == 'n' then '\n' :: replacement whole groups rest
    else if c == 't' then '\t' :: replacement whole groups rest
    else c :: replacement whole groups rest
  | '&' :: rest => whole ++ replacement whole groups rest
  | c :: rest => c :: replacement whole groups rest

/-- A text with matches replaced: from the `nth` one on, all of them or one. `closed` is the place where the
last match ended, and an empty one does not stand there again. -/
def substituted (r : Regular) (folds : Bool) (target : List Char) (isGlobal : Bool) :
    Nat → Nat → Option Nat → Regular.Position → Option (List Char)
  | 0, _, _, _ => none
  | fuel + 1, nth, closed, p =>
    match r.find? folds p with
    | none => none
    | some (start, q) =>
      let skipped := p.rest.take (start.passed - p.passed)
      let whole := start.rest.take (q.passed - start.passed)
      if whole.isEmpty && closed == some start.passed then
        match start.rest with
        | [] => none
        | c :: _ => (substituted r folds target isGlobal fuel nth none (start.after 1)).map fun more => skipped ++ c :: more
      else
        let counts := nth ≤ 1
        let text := if counts then replacement whole q.groups target else whole
        let fresh : Regular.Position := { q with groups := [] }
        if counts && !isGlobal then some (skipped ++ text ++ q.rest)
        else
          match whole, q.rest with
          | [], c :: _ =>
            match substituted r folds target isGlobal fuel (nth - 1) none (fresh.after 1) with
            | some more => some (skipped ++ text ++ c :: more)
            | none => if counts then some (skipped ++ text ++ q.rest) else none
          | _, _ =>
            match substituted r folds target isGlobal fuel (nth - 1) (some q.passed) fresh with
            | some more => some (skipped ++ text ++ more)
            | none => if counts then some (skipped ++ text ++ q.rest) else none

/-- State of an edit: the line at hand and its number, the lines after it, the text held, the output, the text
that follows the line, which ranges are open since which line, and whether the script has ended. -/
structure Editing where
  line : List Char := []
  number : Nat := 0
  rest : List (List Char)
  held : List Char := []
  out : List (List Char) := []
  after : List (List Char) := []
  open_ : List (Nat × Nat) := []
  isDone : Bool := false

/-- Whether the line at hand is one of an address. -/
def Editing.isAt (e : Editing) : Address → Bool
  | .line n => e.number == n
  | .last => e.rest.isEmpty
  | .pattern r folds => (r.find? folds { rest := e.line }).isSome
  | .every first step => if step == 0 then e.number == first else first ≤ e.number && (e.number - first) % step == 0
  | .further _ => false

/-- Whether a range that opened at a line ends at the line at hand or before it. -/
def Editing.isPast (e : Editing) (since : Nat) : Address → Bool
  | .line n => n ≤ e.number
  | .further n => since + n ≤ e.number
  | a => since < e.number && e.isAt a

/-- Whether a command is about the line at hand. Ranges are opened and closed by their number. -/
def Editing.selects (e : Editing) (index : Nat) (c : Command) : Bool × Editing :=
  let (isSelected, e) : Bool × Editing :=
    match c.first, c.last with
    | none, _ => (true, e)
    | some a, none => (e.isAt a, e)
    | some a, some b =>
      match e.open_.lookup index with
      | some since =>
        (match b with
          | .line n => decide (e.number ≤ n)
          | _ => true, if e.isPast since b then { e with open_ := e.open_.filter (·.1 != index) } else e)
      | none =>
        if e.isAt a then (true, if e.isPast e.number b then e else { e with open_ := (index, e.number) :: e.open_ })
        else (false, e)
  (isSelected != c.isNegated, e)

/-- The edits of a script on the line at hand; `quiet` keeps lines from being shown. Whether the line is
still to be shown. -/
def Editing.apply (quiet : Bool) : List (Command × Nat) → Editing → Bool × Editing
  | [], e => (true, e)
  | (c, index) :: rest, e =>
    let (isSelected, e) := e.selects index c
    if !isSelected then apply quiet rest e
    else
      match c.edit with
      | .print => apply quiet rest { e with out := e.out ++ [e.line] }
      | .delete => (false, e)
      | .quit => (true, { e with isDone := true })
      | .number => apply quiet rest { e with out := e.out ++ [(toString e.number).toList] }
      | .append text => apply quiet rest { e with after := e.after ++ [text] }
      | .insert text => apply quiet rest { e with out := e.out ++ [text] }
      | .change text =>
        let ranges := c.last.isSome && !c.isNegated
        (false, if ranges && (e.open_.lookup index).isSome then e else { e with out := e.out ++ [text] })
      | .holdCopy => apply quiet rest { e with held := e.line }
      | .holdAppend => apply quiet rest { e with held := e.held ++ '\n' :: e.line }
      | .getCopy => apply quiet rest { e with line := e.held }
      | .getAppend => apply quiet rest { e with line := e.line ++ '\n' :: e.held }
      | .exchange => apply quiet rest { e with line := e.held, held := e.line }
      | .next =>
        match e.rest with
        | [] => (true, { e with isDone := true })
        | l :: more =>
          apply quiet rest
            { e with line := l, number := e.number + 1, rest := more, after := [],
                     out := (if quiet then e.out else e.out ++ [e.line]) ++ e.after }
      | .transliterate source target =>
        let image (c : Char) : Char := (((source.findIdx? (· == c)).bind fun i => target[i]?)).getD c
        apply quiet rest { e with line := e.line.map image }
      | .substitute r folds target isGlobal nth prints =>
        match substituted r folds target isGlobal (2 * e.line.length + 4) (max nth 1) none { rest := e.line } with
        | none => apply quiet rest e
        | some line =>
          apply quiet rest { e with line := line, out := if prints then e.out ++ [line] else e.out }

/-- The edits of a script on all lines. -/
def Editing.run (quiet : Bool) (script : List (Command × Nat)) : Nat → Editing → Editing
  | 0, e => e
  | fuel + 1, e =>
    match e.rest with
    | [] => e
    | l :: rest =>
      let (isShown, e) := Editing.apply quiet script { e with line := l, number := e.number + 1, rest := rest }
      let e := { e with out := (if isShown && !quiet then e.out ++ [e.line] else e.out) ++ e.after, after := [] }
      if e.isDone then e else run quiet script fuel e

/-- The options of `sed`. -/
def editOptions : OptionTable :=
  { plain := "nErsuz", valued := "ef",
    long := [("quiet", 'n'), ("silent", 'n'), ("expression", 'e'), ("regexp-extended", 'E')] }

/-- The program that edits lines by a script. -/
def edit (sc : Scope) : Result :=
  sc.withOptions editOptions 1 fun o =>
    let given := (o.given.filter (·.1 == 'e')).map (·.2)
    match (if given.isEmpty then o.operands.head?.map fun s => (s, o.operands.drop 1)
        else some ("\n".intercalate given, o.operands)) with
    | none => sc.complain "no script specified" 1
    | some (script, names) =>
      match commands (o.has 'E' || o.has 'r') (script.utf8ByteSize + 1) (charsOfText script) with
      | .error (message, left) =>
        sc.complain s!"-e expression #1, char {script.utf8ByteSize - left}: {message}" 1
      | .ok cs =>
        let r := sc.overFiles names 2 (fun n e =>
          if e == .isDirectory then s!"couldn't edit {n}: not a regular file" else s!"can't read {n}: {e.words}")
            fun _ bytes => bytes
        let all := bareLines r.out
        let lacksEnd := r.out.getLast?.any (· != 10)
        let e := Editing.run (o.has 'n') cs.zipIdx (all.length + 1) { rest := all.map charsOf }
        let out := joinLines (e.out.map ofChars)
        { r with out := if lacksEnd && e.rest.isEmpty then out.dropLast else out }

end Shakedown.Host.Utility
