import Shakedown.Host.Shell.Pattern

/-!
# Regular expressions

Basic and extended regular expressions over the characters of a line. `Regular.ends` lists the
positions up to which an expression matches from a position on; `Regular.find?` takes the leftmost
match, and of those the longest.
-/

namespace Shakedown.Host

/-- Places between two characters that an expression may ask for. -/
inductive Edge where
  | lineStart
  | lineEnd
  | wordStart
  | wordEnd
  | notAfterWord
  | notBeforeWord
  | word
  | notWord
deriving DecidableEq, Repr

/-- A regular expression. A repetition has a least and perhaps a greatest number of rounds. -/
inductive Regular where
  | empty
  | item (p : Shell.PatternItem)
  | at_ (e : Edge)
  | group (number : Nat) (r : Regular)
  | again (number : Nat)
  | both (first second : Regular)
  | either (first second : Regular)
  | repeated (r : Regular) (least : Nat) (most : Option Nat)
deriving Repr

namespace Regular

/-- A position in a line: the character before it, how many have been passed, what is left, and the texts of
the groups so far. -/
structure Position where
  before : Option Char := none
  passed : Nat := 0
  rest : List Char
  groups : List (Nat × List Char) := []
deriving DecidableEq, Repr

/-- Characters of words. -/
def isWordChar (c : Char) : Bool := c.isAlphanum || c == '_'

/-- Whether a place is of a kind. -/
def Position.isAt (p : Position) (e : Edge) : Bool :=
  let after := p.before.any isWordChar
  let before := p.rest.head?.any isWordChar
  match e with
  | .lineStart => p.passed == 0
  | .lineEnd => p.rest.isEmpty
  | .wordStart => !after && before
  | .wordEnd => after && !before
  | .notAfterWord => !after
  | .notBeforeWord => !before
  | .word => after != before
  | .notWord => after == before

/-- The position after a number of characters. -/
def Position.after (p : Position) (n : Nat) : Position :=
  { p with before := ((p.rest.take n).getLast?).or p.before, passed := p.passed + n, rest := p.rest.drop n }

/-- Whether a character is of an item, in either case where `folds`. -/
def itemHolds (folds : Bool) (i : Shell.PatternItem) (c : Char) : Bool :=
  Shell.matchesAll [i] [c] || (folds && (Shell.matchesAll [i] [c.toLower] || Shell.matchesAll [i] [c.toUpper]))

/-- The positions up to which an expression matches from a position on, the favoured ones first. -/
def ends (folds : Bool) : Nat → Regular → Position → List Position
  | 0, _, _ => []
  | fuel + 1, r, p =>
    match r with
    | .empty => [p]
    | .item i => if p.rest.head?.any (itemHolds folds i) then [p.after 1] else []
    | .at_ e => if p.isAt e then [p] else []
    | .group number r =>
      (ends folds fuel r p).map fun q =>
        { q with groups := (number, p.rest.take (q.passed - p.passed)) :: q.groups.filter (·.1 != number) }
    | .again number =>
      match p.groups.lookup number with
      | some text => if text.isPrefixOf p.rest then [p.after text.length] else []
      | none => []
    | .both first second => ((ends folds fuel first p).flatMap (ends folds fuel second)).eraseDups
    | .either first second => (ends folds fuel first p ++ ends folds fuel second p).eraseDups
    | .repeated r least most =>
      let further := if most == some 0 then [] else
        ((ends folds fuel r p).filter fun q => p.passed < q.passed || 0 < least).flatMap
          (ends folds fuel (.repeated r (least - 1) (most.map (· - 1))))
      (if least = 0 then further ++ [p] else further).eraseDups

/-- A bound on the depth of a match. -/
def fuelFor (cs : List Char) : Nat := 64 * (cs.length + 4)

/-- The longest match from a position on. -/
def longestFrom (folds : Bool) (r : Regular) (p : Position) : Option Position :=
  (ends folds (fuelFor p.rest) r p).foldl (fun best q =>
    if best.any fun b => q.passed ≤ b.passed then best else some q) none

/-- The leftmost match from a position on, at most `fuel` characters later: where it starts, and where it
ends. -/
def findFrom (folds : Bool) (r : Regular) : Nat → Position → Option (Position × Position)
  | 0, p => (r.longestFrom folds p).map fun q => (p, q)
  | fuel + 1, p =>
    match r.longestFrom folds p with
    | some q => some (p, q)
    | none => if p.rest.isEmpty then none else findFrom folds r fuel (p.after 1)

/-- The leftmost match in a line from a position on. -/
def find? (folds : Bool) (r : Regular) (p : Position) : Option (Position × Position) :=
  r.findFrom folds p.rest.length p

/-- The texts of all matches in a line that are not empty, one after the other. -/
def allFrom (folds : Bool) (r : Regular) : Nat → Position → List (List Char)
  | 0, _ => []
  | fuel + 1, p =>
    match r.find? folds p with
    | none => []
    | some (start, q) =>
      let text := (p.rest.drop (start.passed - p.passed)).take (q.passed - start.passed)
      if text.isEmpty then if q.rest.isEmpty then [] else allFrom folds r fuel (q.after 1)
      else text :: allFrom folds r fuel { q with groups := [] }

/-- A token of an expression. -/
inductive Token where
  | item (p : Shell.PatternItem)
  | at_ (e : Edge)
  | again (number : Nat)
  | opens
  | closes
  | bar
  | rounds (least : Nat) (most : Option Nat)
deriving DecidableEq, Repr

/-- The number of rounds between braces, and what follows. -/
def rounds? (extended : Bool) (cs : List Char) : Option (Token × List Char) :=
  let number (cs : List Char) : Option Nat := (String.ofList (cs.takeWhile Char.isDigit)).toNat?
  let low := cs.takeWhile Char.isDigit
  let closing (cs : List Char) : Option (List Char) :=
    match extended, cs with
    | true, '\x7d' :: rest => some rest
    | false, '\\' :: '\x7d' :: rest => some rest
    | _, _ => none
  match cs.drop low.length with
  | ',' :: rest =>
    let high := rest.takeWhile Char.isDigit
    (closing (rest.drop high.length)).map fun after => (.rounds ((number low).getD 0) (number high), after)
  | rest => (closing rest).bind fun after => (number low).map fun n => (.rounds n (some n), after)

/-- The characters of words, as an item. -/
def wordItem (isNegated : Bool) : Shell.PatternItem :=
  .bracket isNegated [.named "alnum", .range '_' '_']

/-- What a letter after a backslash stands for. -/
def letterToken? (c : Char) : Option Token :=
  match c with
  | 'w' => some (.item (wordItem false))
  | 'W' => some (.item (wordItem true))
  | 's' => some (.item (.bracket false [.named "space"]))
  | 'S' => some (.item (.bracket true [.named "space"]))
  | 'b' => some (.at_ .word)
  | 'B' => some (.at_ .notWord)
  | '<' => some (.at_ .wordStart)
  | '>' => some (.at_ .wordEnd)
  | 'n' => some (.item (.char '\n'))
  | 't' => some (.item (.char '\t'))
  | _ => if c.isDigit && c != '0' then some (.again (c.toNat - 48)) else none

/-- The tokens of an expression; in a basic one the operators follow a backslash, and `isFirst` tells
that a star or a caret stands where an expression starts. -/
def tokens (extended : Bool) : Nat → Bool → List Char → List Token
  | 0, _, _ => []
  | _ + 1, _, [] => []
  | fuel + 1, isFirst, c :: rest =>
    let plain (x : Char) (rest : List Char) : List Token := .item (.char x) :: tokens extended fuel false rest
    let operator (x : Char) (rest : List Char) : Option (List Token) :=
      if x == '(' then some (.opens :: tokens extended fuel true rest)
      else if x == ')' then some (.closes :: tokens extended fuel false rest)
      else if x == '|' then some (.bar :: tokens extended fuel true rest)
      else if x == '+' && !isFirst then some (.rounds 1 none :: tokens extended fuel false rest)
      else if x == '?' && !isFirst then some (.rounds 0 (some 1) :: tokens extended fuel false rest)
      else if x == '\x7b' && !isFirst then
        (rounds? extended rest).map fun r => r.1 :: tokens extended fuel false r.2
      else none
    if c == '\\' then
      match rest with
      | [] => plain c []
      | x :: rest =>
        match (if extended then none else operator x rest), letterToken? x with
        | some ts, _ => ts
        | none, some t => t :: tokens extended fuel false rest
        | none, none => plain x rest
    else if c == '.' then .item .any :: tokens extended fuel false rest
    else if c == '*' && !isFirst then .rounds 0 none :: tokens extended fuel false rest
    else if c == '^' && (isFirst || extended) then .at_ .lineStart :: tokens extended fuel true rest
    else if c == '$' && (extended || rest.isEmpty || rest.take 2 == ['\\', ')'] || rest.take 2 == ['\\', '|']) then
      .at_ .lineEnd :: tokens extended fuel false rest
    else if c == '[' then
      let negated := rest.head? == some '^'
      let body := if negated then rest.drop 1 else rest
      match Shell.bracketItems (body.length + 1) true body with
      | some (items, after) => .item (.bracket negated items) :: tokens extended fuel false after
      | none => plain c rest
    else
      match (if extended then operator c rest else none) with
      | some ts => ts
      | none => plain c rest

mutual
/-- Alternatives, the tokens after them, and the number of groups that have been opened so far. -/
def alternatives : Nat → Nat → List Token → Regular × List Token × Nat
  | 0, opened, ts => (.empty, ts, opened)
  | fuel + 1, opened, ts =>
    match pieces fuel opened ts with
    | (first, .bar :: rest, opened) =>
      let (second, rest, opened) := alternatives fuel opened rest
      (.either first second, rest, opened)
    | other => other

/-- Pieces one after the other, the tokens after them, and the number of groups. -/
def pieces : Nat → Nat → List Token → Regular × List Token × Nat
  | 0, opened, ts => (.empty, ts, opened)
  | fuel + 1, opened, ts =>
    match ts with
    | [] | .bar :: _ | .closes :: _ => (.empty, ts, opened)
    | t :: rest =>
      let (atom, rest, opened) : Regular × List Token × Nat := match t with
        | .item p => (.item p, rest, opened)
        | .at_ e => (.at_ e, rest, opened)
        | .again n => (.again n, rest, opened)
        | .opens =>
          match alternatives fuel (opened + 1) rest with
          | (inner, .closes :: rest, now) => (.group (opened + 1) inner, rest, now)
          | (inner, rest, now) => (.group (opened + 1) inner, rest, now)
        | _ => (.empty, rest, opened)
      let (piece, rest) := rounds fuel atom rest
      let (more, rest, opened) := pieces fuel opened rest
      (.both piece more, rest, opened)

/-- An atom with the repetitions after it. -/
def rounds : Nat → Regular → List Token → Regular × List Token
  | fuel + 1, atom, .rounds least most :: rest => rounds fuel (.repeated atom least most) rest
  | _, atom, rest => (atom, rest)
end

/-- The expression that characters write. -/
def ofChars (extended : Bool) (cs : List Char) : Regular :=
  let ts := tokens extended (cs.length + 1) true cs
  (alternatives (4 * ts.length + 8) 0 ts).1

/-- The expression that matches characters as they are. -/
def exactly (cs : List Char) : Regular := cs.foldr (fun c r => .both (.item (.char c)) r) .empty

/-- The expression on words of their own. -/
def asWord (r : Regular) : Regular := .both (.at_ .notAfterWord) (.both r (.at_ .notBeforeWord))

/-- The expression on whole lines. -/
def asLine (r : Regular) : Regular := .both (.at_ .lineStart) (.both r (.at_ .lineEnd))

end Regular
end Shakedown.Host
