import Shakedown.Host.Shell.Syntax

/-!
# Reading shell scripts

Words with their quotes and expansions, and the grammar of commands over them. Where a script does
not follow the grammar, a fault tells what was found and, if only one thing could have stood there,
what was expected. `script` reads line by line: each line is carried out before a fault in a later
one shows.
-/

namespace Shakedown.Host.Shell

/-- Characters that end an unquoted word. -/
def isMeta (c : Char) : Bool :=
  c == ' ' || c == '\t' || c == '\n' || c == ';' || c == '&' || c == '|' || c == '<' || c == '>' ||
    c == '(' || c == ')'

/-- Characters that start a name. -/
def isNameStart (c : Char) : Bool := c.isAlpha || c == '_'

/-- Characters of a name. -/
def isNameChar (c : Char) : Bool := c.isAlphanum || c == '_'

/-- Whether a text is a name. -/
def isName (s : String) : Bool :=
  (s.toList.head?.map isNameStart).getD false && s.toList.all isNameChar

/-- Parameters whose name is one character. -/
def isSpecialParameter (c : Char) : Bool :=
  c == '@' || c == '*' || c == '#' || c == '?' || c == '-' || c == '$' || c == '!' || c.isDigit

/-- Characters that start a quote or an expansion. -/
def startsPart (c : Char) : Bool :=
  c == '"' || c == '\'' || c == '\\' || c == '$' || c.toNat == 96

/-- The length of a quoted text at the start of what follows its opening quote, with its closing
quote; the whole length if there is none. -/
def quotedLength (quote : Char) : List Char → Nat
  | [] => 0
  | c :: rest =>
    if c == quote then 1
    else if c == '\\' && quote == '"' then
      match rest with
      | _ :: rest => quotedLength quote rest + 2
      | [] => 1
    else quotedLength quote rest + 1

/-- A text up to the closing parenthesis of its depth, which is dropped; quotes hide parentheses. -/
def untilParen : Nat → Nat → List Char → List Char → Option (List Char × List Char)
  | 0, _, _, _ => none
  | _ + 1, _, _, [] => none
  | fuel + 1, depth, rev, c :: rest =>
    if c == ')' then
      match depth with
      | 0 => some (rev.reverse, rest)
      | d + 1 => untilParen fuel d (c :: rev) rest
    else if c == '(' then untilParen fuel (depth + 1) (c :: rev) rest
    else if c == '\\' then
      match rest with
      | x :: rest => untilParen fuel depth (x :: c :: rev) rest
      | [] => none
    else if c == '\'' || c == '"' then
      let inner := rest.take (quotedLength c rest)
      untilParen fuel depth (inner.reverse ++ c :: rev) (rest.drop inner.length)
    else untilParen fuel depth (c :: rev) rest

/-- A text up to the closing brace of its depth, which is dropped; quotes hide braces. -/
def untilBrace (quoted : Bool) : Nat → Nat → List Char → List Char → Option (List Char × List Char)
  | 0, _, _, _ => none
  | _ + 1, _, _, [] => none
  | fuel + 1, depth, rev, c :: rest =>
    if c == '\x7d' then
      match depth with
      | 0 => some (rev.reverse, rest)
      | d + 1 => untilBrace quoted fuel d (c :: rev) rest
    else if c == '$' && rest.head? == some '\x7b' then
      untilBrace quoted fuel (depth + 1) ('\x7b' :: c :: rev) (rest.drop 1)
    else if c == '\\' then
      match rest with
      | x :: rest => untilBrace quoted fuel depth (x :: c :: rev) rest
      | [] => none
    else if c == '"' || (c == '\'' && !quoted) then
      let inner := rest.take (quotedLength c rest)
      untilBrace quoted fuel depth (inner.reverse ++ c :: rev) (rest.drop inner.length)
    else untilBrace quoted fuel depth (c :: rev) rest

/-- A text up to the closing backquote, with the backslashes before backslashes, dollars and
backquotes dropped. -/
def untilBackquote : List Char → Option (List Char × List Char)
  | [] => none
  | '\\' :: c :: rest =>
    (untilBackquote rest).map fun r =>
      (if c == '\\' || c == '$' || c.toNat == 96 then c :: r.1 else '\\' :: c :: r.1, r.2)
  | c :: rest =>
    if c.toNat == 96 then some ([], rest) else (untilBackquote rest).map fun r => (c :: r.1, r.2)

/-- The operators of a parameter expansion, the longer ones first. -/
def parameterOperators : List String :=
  [":-", ":=", ":+", ":?", "##", "%%", "-", "=", "+", "?", "#", "%"]

/-- The expansion that a text between braces writes; one without sense has the operator `bad`. -/
def bracedParameter (quoted : Bool) (inner : List Char) : Part :=
  let bad : Part := .parameter "" "bad" [] quoted
  match inner with
  | ['#'] => .parameter "#" "" [] quoted
  | '#' :: name =>
    if name.all isNameChar || (name.length == 1 && name.all isSpecialParameter) then
      .parameter (String.ofList name) "length" [] quoted
    else bad
  | c :: rest =>
    let name := if isNameStart c then inner.takeWhile isNameChar
      else if c.isDigit then inner.takeWhile Char.isDigit
      else if isSpecialParameter c then [c] else []
    if name.isEmpty then bad
    else
      let after := if isNameStart c || c.isDigit then inner.drop name.length else rest
      if after.isEmpty then .parameter (String.ofList name) "" [] quoted
      else
        match parameterOperators.find? fun op => op.toList.isPrefixOf after with
        | some op => .parameter (String.ofList name) op (after.drop op.length) quoted
        | none => bad
  | [] => bad

/-- Parts without the empty unquoted pieces that reading leaves. -/
def tidy (parts : List Part) : List Part := parts.filter fun p => p != .literal [] false

/-- The text of a word that is written without quotes or expansions. -/
def plainText? : Word → Option String
  | [.literal text false] => some (String.ofList text)
  | _ => none

/-- A script being read: what is left of it, the line, and the lines of documents that have been
taken out of what is left of this line. -/
structure Input where
  rest : List Char
  line : Nat := 1
  taken : Nat := 0
deriving Repr

/-- Reading commands. -/
abbrev Reading := StateT Input (Except Fault)

/-- What comes next in a script. -/
inductive Token where
  | ends
  | newline
  | operator (text : String)
  | reserved (text : String)
  | redirection
  | word
deriving DecidableEq, Repr

/-- A token in words. -/
def Token.words : Token → String
  | .ends => "end of file"
  | .newline => "newline"
  | .operator text | .reserved text => s!"\"{text}\""
  | .redirection => "redirection"
  | .word => "word"

/-- The operators of commands, the longer ones first. -/
def commandOperators : List String := ["&&", "||", ";;", "&", "|", ";", "(", ")"]

/-- The words that are part of the grammar where a command starts. -/
def reservedWords : List String :=
  ["!", "case", "do", "done", "elif", "else", "esac", "fi", "for", "if", "in", "then", "until", "while",
    "\x7b", "\x7d"]

/-- Whether a token ends a list of commands. -/
def Token.endsList : Token → Bool
  | .ends => true
  | .operator text => text == ")" || text == ";;"
  | .reserved text => ["do", "done", "elif", "else", "esac", "fi", "then", "\x7d"].contains text
  | _ => false

/-- How text within double quotes ends and what a backslash does in it: it ends at a quote, or it is
an operand, whose own quotes are dropped, or a document, which ends where its text does. -/
inductive Enclosure where
  | quotes
  | operand
  | document
deriving DecidableEq, Repr

namespace Reading

/-- Reading fails with a message. -/
def fail {α : Type} (message : String) : Reading α := do throw ⟨(← get).line, s!"Syntax error: {message}"⟩

/-- The text that is left. -/
def rest : Reading (List Char) := do return (← get).rest

/-- A number of characters is skipped. -/
def skip (n : Nat) : Reading Unit := modify fun s =>
  let feeds := ((s.rest.take n).filter (· == '\n')).length
  { rest := s.rest.drop n, line := s.line + feeds + (if feeds = 0 then 0 else s.taken),
    taken := if feeds = 0 then s.taken else 0 }

/-- Reading fails at the end of the script. -/
def failAtEnd {α : Type} (message : String) : Reading α := do
  skip (← rest).length
  fail message

/-- Characters are skipped down to a rest. -/
def skipTo (after : List Char) : Reading Unit := do skip ((← rest).length - after.length)

/-- The length of blanks, joined lines and a comment at the start of a text. -/
def blankLength : Nat → List Char → Nat
  | 0, _ => 0
  | fuel + 1, cs =>
    match cs with
    | ' ' :: rest | '\t' :: rest => blankLength fuel rest + 1
    | '\\' :: '\n' :: rest => blankLength fuel rest + 2
    | '#' :: rest => (rest.takeWhile (· != '\n')).length + 1
    | _ => 0

/-- Blanks and a comment are skipped. -/
def blanks : Reading Unit := do
  let cs ← rest
  skip (blankLength (cs.length + 1) cs)

/-- The next word if it has no quote and no expansion, without reading it. -/
def peekPlain : Reading (Option String) := do
  blanks
  let text := (← rest).takeWhile fun c => !isMeta c
  return if text.isEmpty || text.any startsPart then none else some (String.ofList text)

/-- What comes next. -/
def next : Reading Token := do
  blanks
  let cs ← rest
  match cs with
  | [] => return .ends
  | c :: after =>
    if c == '\n' then return .newline
    else if c == '<' || c == '>' || (c.isDigit && (after.head? == some '<' || after.head? == some '>')) then
      return .redirection
    else
      match commandOperators.find? fun op => op.toList.isPrefixOf cs with
      | some op => return .operator op
      | none =>
        match ← peekPlain with
        | some w => return if reservedWords.contains w then .reserved w else .word
        | none => return .word

/-- Whether a token is next. -/
def sees (t : Token) : Reading Bool := do return (← next) == t

/-- Reading fails because of what comes next, where one thing may have been expected. -/
def unexpected {α : Type} (wanted : Option String) : Reading α := do
  let t ← next
  if t == .newline then skip 1
  let hint := match wanted with
    | some w => s!" (expecting {w})"
    | none => ""
  fail s!"{t.words} unexpected{hint}"

/-- An operator is skipped if it is next. -/
def skipIf (op : String) : Reading Bool := do
  if ← sees (.operator op) then
    skip op.length
    return true
  else return false

/-- Line feeds, blanks and comments are skipped. -/
def newlines : Nat → Reading Unit
  | 0 => pure ()
  | fuel + 1 => do
    if ← sees .newline then
      skip 1
      newlines fuel

/-- Line feeds, blanks and comments are skipped. -/
def gap : Reading Unit := do newlines ((← rest).length + 1)

/-- A reserved word is skipped if it is next. -/
def skipKeyword (w : String) : Reading Bool := do
  if (← peekPlain) == some w then
    skip w.length
    return true
  else return false

/-- A reserved word has to be next. -/
def keyword (w : String) : Reading Unit := do
  gap
  if !(← skipKeyword w) then unexpected (some s!"\"{w}\"")

/-- An operator has to be next. -/
def operator (op : String) : Reading Unit := do
  gap
  if !(← skipIf op) then unexpected (some s!"\"{op}\"")

/-- The assignment that a word writes, if it does. -/
def assignment? : Word → Option (String × Word)
  | .literal text false :: parts =>
    let name := text.takeWhile isNameChar
    match text.drop name.length with
    | '=' :: value =>
      if (name.head?.map isNameStart).getD false then
        some (String.ofList name, tidy (.literal value false :: parts))
      else none
    | _ => none
  | _ => none

/-- The lines of a document up to a line that ends it, the number of lines that it takes, and the text
after it. -/
def documentLines (delimiter : List Char) (withoutTabs : Bool) : Nat → List Char → List Char × Nat × List Char
  | 0, cs => ([], 0, cs)
  | fuel + 1, cs =>
    if cs.isEmpty then ([], 0, [])
    else
      let written := cs.takeWhile (· != '\n')
      let line := if withoutTabs then written.dropWhile (· == '\t') else written
      let after := (cs.drop written.length).drop 1
      if line == delimiter then ([], 1, after)
      else
        let (body, count, after) := documentLines delimiter withoutTabs fuel after
        (line ++ '\n' :: body, count + 1, after)

/-- The document that starts on the next line is taken out of the text. -/
def takeDocument (delimiter : List Char) (withoutTabs : Bool) : Reading (List Char) := do
  let s ← get
  let here := s.rest.takeWhile (· != '\n')
  let below := (s.rest.drop here.length).drop 1
  let (body, count, after) := documentLines delimiter withoutTabs (below.length + 1) below
  let feed := if here.length < s.rest.length then ['\n'] else []
  set { s with rest := here ++ feed ++ after, taken := s.taken + count }
  return body

/-- The text of a word without its quotes. -/
def unquoted (w : Word) : List Char :=
  w.flatMap fun p =>
    match p with
    | .literal text _ => text
    | _ => []

/-- Whether a word has a quoted part. -/
def hasQuotes (w : Word) : Bool :=
  w.any fun p =>
    match p with
    | .literal _ quoted => quoted
    | _ => false

/-- The operator of a redirection, and the descriptor that it stands for. -/
def redirectOperators : List (String × RedirectKind × Nat) :=
  [("<<-", .document, 0), ("<<", .document, 0), (">>", .append, 1), (">&", .duplicate, 1), (">|", .force, 1),
    ("<&", .duplicate, 0), (">", .write, 1), ("<", .read, 0)]

/-- The substitution after a backquote. -/
def backquoted (quoted : Bool) : Reading Part := do
  let line := (← get).line
  match untilBackquote (← rest) with
  | some (script, after) =>
    skipTo after
    return .command script line quoted
  | none => failAtEnd "EOF in backquote substitution"

/-- The separator after a command, which may send it into the background, and whether there is one. -/
def separator (first : Command) : Reading (Command × Bool) := do
  if ← skipIf "&" then return (.background first, true)
  else if ← skipIf ";" then return (first, true)
  else return (first, false)

mutual
/-- The parts that an expansion after a dollar sign makes, or the sign itself. -/
def dollar (quoted : Bool) : Nat → Reading Part
  | 0 => fail "end of file unexpected"
  | fuel + 1 => do
    match ← rest with
    | '(' :: '(' :: inner =>
      match untilParen (inner.length + 1) 0 [] inner with
      | some (expression, ')' :: after) =>
        skipTo after
        return .arithmetic expression quoted
      | _ => failAtEnd "Missing '))'"
    | '(' :: _ =>
      skip 1
      let start ← get
      let _ ← list true fuel
      operator ")"
      let after ← rest
      return .command (start.rest.take (start.rest.length - after.length - 1)) start.line quoted
    | '\x7b' :: inner =>
      match untilBrace quoted (inner.length + 1) 0 [] inner with
      | some (inner, after) =>
        skipTo after
        return bracedParameter quoted inner
      | none => failAtEnd (if quoted then "Unterminated quoted string" else "Missing '\x7d'")
    | c :: after =>
      if isNameStart c then
        let name := (c :: after).takeWhile isNameChar
        skip name.length
        return .parameter (String.ofList name) "" [] quoted
      else if isSpecialParameter c then
        skip 1
        return .parameter (String.ofList [c]) "" [] quoted
      else return .literal ['$'] quoted
    | [] => return .literal ['$'] quoted

/-- The parts inside double quotes, up to their end. -/
def quotedParts (e : Enclosure) : Nat → List Char → Reading (List Part)
  | 0, _ => fail "Unterminated quoted string"
  | fuel + 1, rev => do
    match ← rest with
    | [] => if e == .quotes then fail "Unterminated quoted string" else return [.literal rev.reverse true]
    | c :: after =>
      skip 1
      if c == '"' && e == .quotes then return [.literal rev.reverse true]
      else if c == '"' && e == .operand then quotedParts e fuel rev
      else if c == '\\' then
        match after with
        | '\n' :: _ =>
          skip 1
          quotedParts e fuel rev
        | x :: _ =>
          skip 1
          if x == '$' || x == '\\' || x.toNat == 96 || (x == '"' && e != .document) then quotedParts e fuel (x :: rev)
          else quotedParts e fuel (x :: c :: rev)
        | [] => quotedParts e fuel (c :: rev)
      else if c == '$' || c.toNat == 96 then
        let part ← if c == '$' then dollar true fuel else backquoted true
        return .literal rev.reverse true :: part :: (← quotedParts e fuel [])
      else quotedParts e fuel (c :: rev)

/-- The parts of a word, up to a character that ends it or, if `toEnd`, the end of the text. -/
def wordParts (toEnd : Bool) : Nat → List Char → Reading (List Part)
  | 0, _ => fail "end of file unexpected"
  | fuel + 1, rev => do
    let before : Part := .literal rev.reverse false
    match ← rest with
    | [] => return [before]
    | c :: after =>
      if !toEnd && isMeta c then return [before]
      else
        skip 1
        if c == '\\' then
          match after with
          | '\n' :: _ =>
            skip 1
            wordParts toEnd fuel rev
          | x :: _ =>
            skip 1
            return before :: .literal [x] true :: (← wordParts toEnd fuel [])
          | [] => return [before, .literal ['\\'] true]
        else if c == '\'' then
          let inner := after.takeWhile (· != '\'')
          if inner.length < after.length then
            skip (inner.length + 1)
            return before :: .literal inner true :: (← wordParts toEnd fuel [])
          else failAtEnd "Unterminated quoted string"
        else if c == '"' then
          let parts ← quotedParts .quotes fuel []
          return before :: parts ++ (← wordParts toEnd fuel [])
        else if c == '$' || c.toNat == 96 then
          let part ← if c == '$' then dollar false fuel else backquoted false
          return before :: part :: (← wordParts toEnd fuel [])
        else wordParts toEnd fuel (c :: rev)

/-- The next word, if one is next. -/
def word? : Nat → Reading (Option Word)
  | 0 => return none
  | fuel + 1 => do
    blanks
    match ← rest with
    | [] => return none
    | c :: _ => if isMeta c then return none else return some (tidy (← wordParts false fuel []))

/-- The redirection that is next, if one is. -/
def redirect? : Nat → Reading (Option Redirect)
  | 0 => return none
  | fuel + 1 => do
    if !(← sees .redirection) then return none
    let cs ← rest
    let digits := (cs.take 1).takeWhile Char.isDigit
    let after := cs.drop digits.length
    match redirectOperators.find? fun o => o.1.toList.isPrefixOf after with
    | none => return none
    | some (written, kind, standard) =>
      skip (digits.length + written.length)
      let descriptor := ((String.ofList digits).toNat?).getD standard
      match ← word? fuel with
      | none => unexpected none
      | some target =>
        if kind == .document then
          let body ← takeDocument (unquoted target) (written == "<<-")
          if hasQuotes target then return some ⟨descriptor, kind, [.literal body true]⟩
          else
            let s ← get
            set ({ rest := body, line := s.line } : Input)
            let parts ← quotedParts .document fuel []
            set s
            return some ⟨descriptor, kind, tidy parts⟩
        else return some ⟨descriptor, kind, target⟩

/-- The redirections after a compound command. -/
def redirects : Nat → Reading (List Redirect)
  | 0 => return []
  | fuel + 1 => do
    match ← redirect? fuel with
    | some r => return r :: (← redirects fuel)
    | none => return []

/-- A simple command after its first parts, or a function. -/
def simple (line : Nat) (assignments : List (String × Word)) (words : List Word) (reds : List Redirect) :
    Nat → Reading Command
  | 0 => unexpected none
  | fuel + 1 => do
    match ← redirect? fuel with
    | some r => simple line assignments words (reds ++ [r]) fuel
    | none =>
      match ← word? fuel with
      | some w =>
        match (if words.isEmpty then assignment? w else none) with
        | some a => simple line (assignments ++ [a]) words reds fuel
        | none => simple line assignments (words ++ [w]) reds fuel
      | none =>
        match words, assignments, reds with
        | [], [], [] => unexpected none
        | [w], [], [] =>
          if ← skipIf "(" then
            if !(← skipIf ")") then unexpected (some "\")\"")
            match plainText? w with
            | some name =>
              if !isName name || specialCommands.contains name then fail "Bad function name"
              gap
              return .define name (← command fuel)
            | none => fail "Bad function name"
          else return .simple line assignments words reds
        | _, _, _ => return .simple line assignments words reds

/-- The commands of a list inside another command, up to what ends it; none at all only if
`mayBeEmpty`. -/
def list (mayBeEmpty : Bool) : Nat → Reading (Option Command)
  | 0 => unexpected none
  | fuel + 1 => do
    gap
    let t ← next
    if t == .ends || (mayBeEmpty && t.endsList) then return none
    let first ← andOr fuel
    let (first, goesOn) ← separator first
    let goesOn := goesOn || (← sees .newline)
    if goesOn then
      match ← list true fuel with
      | some more => return some (.sequence first more)
      | none => return some first
    else return some first

/-- The commands of a list that has to have some, up to what ends it. -/
def body : Nat → Reading Command
  | 0 => unexpected none
  | fuel + 1 => do return (← list false fuel).getD .nothing

/-- Pipelines joined by `&&` and `||`. -/
def andOr : Nat → Reading Command
  | 0 => unexpected none
  | fuel + 1 => do
    let first ← pipeline fuel
    andOrTail fuel first

/-- The pipelines after a first one. -/
def andOrTail : Nat → Command → Reading Command
  | 0, _ => unexpected none
  | fuel + 1, first => do
    if ← skipIf "&&" then
      gap
      let second ← pipeline fuel
      andOrTail fuel (.both first second)
    else if ← skipIf "||" then
      gap
      let second ← pipeline fuel
      andOrTail fuel (.either first second)
    else return first

/-- A pipeline. -/
def pipeline : Nat → Reading Command
  | 0 => unexpected none
  | fuel + 1 => do
    if ← skipKeyword "!" then return .pipeline true (← stages fuel)
    else
      match ← stages fuel with
      | [c] => return c
      | all => return .pipeline false all

/-- The stages of a pipeline. -/
def stages : Nat → Reading (List Command)
  | 0 => unexpected none
  | fuel + 1 => do
    let first ← command fuel
    if ← skipIf "|" then
      gap
      return first :: (← stages fuel)
    else return [first]

/-- A command. -/
def command : Nat → Reading Command
  | 0 => unexpected none
  | fuel + 1 => do
    match ← next with
    | .operator "(" =>
      skip 1
      let inner ← body fuel
      operator ")"
      return .subshell inner (← redirects fuel)
    | .reserved "\x7b" =>
      skip 1
      let inner ← body fuel
      keyword "\x7d"
      return .group inner (← redirects fuel)
    | .reserved "if" =>
      skip 2
      match ← branches fuel with
      | .branch test yes no _ => return .branch test yes no (← redirects fuel)
      | other => return other
    | .reserved "while" =>
      skip 5
      loop false fuel
    | .reserved "until" =>
      skip 5
      loop true fuel
    | .reserved "for" =>
      skip 3
      each fuel
    | .reserved "case" =>
      skip 4
      match ← word? fuel with
      | none => unexpected (some "word")
      | some subject =>
        keyword "in"
        let all ← clauses fuel
        return .select subject all (← redirects fuel)
    | .word | .redirection => simple (← get).line [] [] [] fuel
    | _ => unexpected none

/-- The branches of a condition after its `if` or `elif`. -/
def branches : Nat → Reading Command
  | 0 => unexpected none
  | fuel + 1 => do
    let test ← body fuel
    keyword "then"
    let yes ← body fuel
    gap
    if ← skipKeyword "elif" then return .branch test yes (some (← branches fuel)) []
    else if ← skipKeyword "else" then
      let no ← body fuel
      keyword "fi"
      return .branch test yes (some no) []
    else
      keyword "fi"
      return .branch test yes none []

/-- A loop after its first word. -/
def loop (isUntil : Bool) : Nat → Reading Command
  | 0 => unexpected none
  | fuel + 1 => do
    let test ← body fuel
    keyword "do"
    let inner ← body fuel
    keyword "done"
    return .loop isUntil test inner (← redirects fuel)

/-- The words of a list up to a separator. -/
def wordList : Nat → Reading (List Word)
  | 0 => return []
  | fuel + 1 => do
    match ← word? fuel with
    | some w => return w :: (← wordList fuel)
    | none => return []

/-- A loop over words after its `for`. -/
def each : Nat → Reading Command
  | 0 => unexpected none
  | fuel + 1 => do
    match ((← word? fuel).bind plainText?).filter isName with
    | none => fail "Bad for loop variable"
    | some name =>
      gap
      let items ← if ← skipKeyword "in" then do
          let items ← wordList fuel
          if !(← skipIf ";") && !(← sees .newline) then unexpected none
          pure (some items)
        else do
          let _ ← skipIf ";"
          pure none
      keyword "do"
      let inner ← body fuel
      keyword "done"
      return .each name items inner (← redirects fuel)

/-- The patterns of a clause, up to the closing parenthesis. -/
def patterns : Nat → Reading (List Word)
  | 0 => unexpected none
  | fuel + 1 => do
    let pattern ← match ← word? fuel with
      | some w => pure w
      | none => do
        if ← sees .newline then skip 1
        else match ← next with
          | .operator op => skip op.length
          | _ => pure ()
        pure []
    if ← skipIf "|" then return pattern :: (← patterns fuel)
    else if ← skipIf ")" then return [pattern]
    else unexpected (some "\")\"")

/-- The clauses of a selection up to its end. -/
def clauses : Nat → Reading (List (List Word × Option Command))
  | 0 => unexpected none
  | fuel + 1 => do
    gap
    if ← skipKeyword "esac" then return []
    let _ ← skipIf "("
    let ps ← patterns fuel
    let inner ← list true fuel
    gap
    if ← skipIf ";;" then return (ps, inner) :: (← clauses fuel)
    else if ← skipKeyword "esac" then return [(ps, inner)]
    else unexpected (some "\";;\"")
end

/-- The bound on the depth of reading a text. -/
def fuelFor (text : List Char) : Nat := 8 * text.length + 64

/-- The commands of a line. None if it has none. -/
def line : Nat → Reading (Option Command)
  | 0 => unexpected none
  | fuel + 1 => do
    match ← next with
    | .ends => return none
    | .newline =>
      skip 1
      return none
    | _ =>
      let first ← andOr fuel
      let (first, goesOn) ← separator first
      if goesOn then
        match ← line fuel with
        | some more => return some (.sequence first more)
        | none => return some first
      else
        match ← next with
        | .ends => return some first
        | .newline =>
          skip 1
          return some first
        | _ => unexpected none

/-- The commands of a text, line by line; a fault is the last of them. -/
def lines (fuel : Nat) : Nat → Input → List Command
  | 0, _ => []
  | more + 1, s =>
    match (line fuel).run s with
    | .error fault => [.malformed fault]
    | .ok (found, s) => found.toList ++ if s.rest.isEmpty then [] else lines fuel more s

end Reading

/-- The script that a text writes, given the number of its first line. -/
def scriptFrom (firstLine : Nat) (text : List Char) : Script :=
  ⟨.ofList (Reading.lines (Reading.fuelFor text) (text.length + 1) { rest := text, line := firstLine }),
    text.getLast? != some '\n'⟩

/-- The script that a text writes. -/
def script (text : List Char) : Script := scriptFrom 1 text

/-- A text as one word, enclosed in something or not. -/
def wholeWord (enclosure : Option Enclosure) (cs : List Char) : Option Word :=
  let read := match enclosure with
    | some e => Reading.quotedParts e (Reading.fuelFor cs) []
    | none => Reading.wordParts true (Reading.fuelFor cs) []
  match read.run { rest := cs } with
  | .ok (parts, _) => some (tidy parts)
  | .error _ => none

end Shakedown.Host.Shell
