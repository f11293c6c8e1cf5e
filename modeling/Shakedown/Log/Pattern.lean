import Shakedown.Text.Alphanumeric

/-!
# Patterns for the values of fields

A directive may ask for fields with a value. The value is a truth value, a number or a pattern, and
`isValue` tells which texts are one of them. A pattern is a regular expression in which every group
and class is closed, every escape and flag is known, and every repetition has something to repeat.
Word boundaries are refused where all of Unicode counts, since no automaton decides them; braces
are too, since a closing brace ends the field.
-/

namespace Shakedown.Log.Pattern

/-- How a part of a pattern is read: whether all of Unicode counts, and whether blanks stand for
nothing. -/
structure Mode where
  isUnicode : Bool := true
  isSpaced : Bool := false
deriving DecidableEq, Repr

/-- What an escape stands for. -/
inductive Escape where
  | char (c : Char)
  | set (isNegated : Bool)
  | boundary
  | edge
deriving DecidableEq, Repr

/-- The number that hexadecimal digits write. -/
def hexadecimal? (digits : List Char) : Option Nat :=
  digits.foldlM (fun n c =>
    if c.isDigit then some (16 * n + (c.toNat - 48))
    else if 'a' ≤ c && c ≤ 'f' then some (16 * n + (c.toNat - 87))
    else if 'A' ≤ c && c ≤ 'F' then some (16 * n + (c.toNat - 55))
    else none) 0

/-- The character of a code of a given number of hexadecimal digits. -/
def coded? (width : Nat) (cs : List Char) : Option (Escape × List Char) :=
  if cs.length < width then none
  else (hexadecimal? (cs.take width)).bind fun n =>
    if n.isValidChar then some (.char (Char.ofNat n), cs.drop width) else none

/-- The escape after a backslash, and what follows it. -/
def escape? : List Char → Option (Escape × List Char)
  | [] => none
  | 'x' :: rest => coded? 2 rest
  | 'u' :: rest => coded? 4 rest
  | 'U' :: rest => coded? 8 rest
  | c :: rest =>
    if c == 'p' || c == 'P' then
      match rest with
      | category :: rest => if "CLMNPSZclmnpsz".toList.contains category then some (.set false, rest) else none
      | [] => none
    else if "dsw".toList.contains c then some (.set false, rest)
    else if "DSW".toList.contains c then some (.set true, rest)
    else if "aftnrv".toList.contains c then some (.char (Char.ofNat ((([('a', 7), ('f', 12), ('t', 9), ('n', 10),
      ('r', 13), ('v', 11)] : List (Char × Nat)).lookup c).getD 0)), rest)
    else if "Az".toList.contains c then some (.edge, rest)
    else if "bB<>".toList.contains c then some (.boundary, rest)
    else if c.toNat < 128 && !c.isAlphanum then some (.char c, rest)
    else none

/-- One member of a class: a character, or a set. -/
def member? : List Char → Option (Option Char × List Char)
  | [] => none
  | '\\' :: rest =>
    match escape? rest with
    | some (.char c, rest) => some (some c, rest)
    | some (.set _, rest) => some (none, rest)
    | _ => none
  | c :: rest => some (some c, rest)

/-- A member of a class or a range of them. The ends of a range are characters in order. -/
def range? (cs : List Char) : Option (List Char) := do
  let (first, rest) ← member? cs
  match rest with
  | '-' :: ']' :: _ | '-' :: '-' :: _ => some rest
  | '-' :: rest =>
    let (last, rest) ← member? rest
    match first, last with
    | some a, some b => if a ≤ b then some rest else none
    | _, _ => none
  | _ => some rest

/-- The names of sets of ASCII characters in a class. -/
def setNames : List String :=
  ["alnum", "alpha", "ascii", "blank", "cntrl", "digit", "graph", "lower", "print", "punct", "space", "upper",
    "word", "xdigit"]

/-- A named set of ASCII characters after an opening bracket. -/
def namedSet? : List Char → Option (List Char)
  | ':' :: rest =>
    let rest := if rest.head? == some '^' then rest.drop 1 else rest
    let name := rest.takeWhile (· != ':')
    match rest.drop name.length with
    | ':' :: ']' :: rest => if setNames.contains (String.ofList name) then some rest else none
    | _ => none
  | _ => none

/-- What follows the start of a class: the members that may stand there only. -/
def classStart (cs : List Char) : List Char :=
  let cs := if cs.head? == some '^' then cs.drop 1 else cs
  let rest := cs.dropWhile (· == '-')
  if rest.length == cs.length && rest.head? == some ']' then rest.drop 1 else rest

/-- What follows a class and the `depth` classes around it. -/
def classRest : Nat → Nat → List Char → Option (List Char)
  | 0, _, _ => none
  | fuel + 1, depth, cs =>
    match cs with
    | [] => none
    | '[' :: rest =>
      match namedSet? rest with
      | some rest => classRest fuel depth rest
      | none => classRest fuel (depth + 1) (classStart rest)
    | ']' :: rest => if depth = 0 then some rest else classRest fuel (depth - 1) rest
    | '&' :: '&' :: rest | '-' :: '-' :: rest | '~' :: '~' :: rest => classRest fuel depth rest
    | _ => (range? cs).bind (classRest fuel depth)

/-- The mode after some flags, which a colon or parenthesis ends: the mode, and what follows from
that end on. A flag stands once, and something follows the minus sign. -/
def flags? (mode : Mode) : List Char → Bool → List Char → Option (Mode × List Char)
  | _, _, [] => none
  | seen, isMinus, c :: rest =>
    if c == ':' || c == ')' then if seen.head? == some '-' then none else some (mode, c :: rest)
    else if seen.contains c then none
    else if c == '-' then flags? mode (c :: seen) true rest
    else if c == 'u' then flags? { mode with isUnicode := !isMinus } (c :: seen) isMinus rest
    else if c == 'x' then flags? { mode with isSpaced := !isMinus } (c :: seen) isMinus rest
    else if "imsUR".toList.contains c then flags? mode (c :: seen) isMinus rest
    else none

/-- What the text after an opening parenthesis starts. -/
inductive Opening where
  | group (mode : Mode) (name : List Char)
  | setting (mode : Mode)
deriving DecidableEq, Repr

/-- The name of a group, and what follows the sign after it. -/
def groupName? (cs : List Char) : Option (List Char × List Char) :=
  let name := cs.takeWhile (· != '>')
  match name, cs.drop name.length with
  | c :: more, '>' :: rest =>
    let isLetter (c : Char) : Bool := c == '_' || Text.isAlphanumeric c
    if isLetter c && !c.isDigit && more.all (fun c => isLetter c || ".[]".toList.contains c) then some (name, rest)
    else none
  | _, _ => none

/-- What an opening parenthesis starts, and what follows. Groups that look around are refused. -/
def opening? (mode : Mode) (cs : List Char) : Option (Opening × List Char) :=
  match cs with
  | '?' :: '<' :: c :: rest | '?' :: 'P' :: '<' :: c :: rest =>
    if c == '=' || c == '!' then none
    else (groupName? (c :: rest)).map fun r => (.group mode r.1, r.2)
  | '?' :: rest =>
    match flags? mode [] false rest with
    | some (mode, ':' :: rest) => some (.group mode [], rest)
    | some (inner, ')' :: after) => if rest.head? == some ')' then none else some (.setting inner, after)
    | _ => none
  | _ => some (.group mode [], cs)

/-- Whether the rest of a pattern is well formed, given the modes outside of the groups that are open,
the names of groups so far, the mode, and whether there is something to repeat. -/
def isWellFormedFrom : Nat → List Mode → List (List Char) → Mode → Bool → List Char → Bool
  | 0, _, _, _, _, _ => false
  | _ + 1, outer, _, _, _, [] => outer.isEmpty
  | fuel + 1, outer, names, mode, hasItem, c :: rest =>
    if c == '(' then
      match opening? mode rest with
      | some (.group inner name, rest) =>
        -- A name stands for one group only.
        (name.isEmpty || !names.contains name) &&
          isWellFormedFrom fuel (mode :: outer) (name :: names) inner false rest
      | some (.setting mode, rest) => isWellFormedFrom fuel outer names mode false rest
      | none => false
    else if c == ')' then
      match outer with
      | mode :: outer => isWellFormedFrom fuel outer names mode true rest
      | [] => false
    else if c == '|' then isWellFormedFrom fuel outer names mode false rest
    else if c == '*' || c == '+' || c == '?' then
      -- There must be something to repeat; a question mark after that makes the repetition lazy.
      hasItem && isWellFormedFrom fuel outer names mode true (if rest.head? == some '?' then rest.drop 1 else rest)
    else if c == '\x7b' then false
    else if c == '[' then
      (mode.isUnicode || rest.head? != some '^') &&
        match classRest fuel 0 (classStart rest) with
        | some rest => isWellFormedFrom fuel outer names mode true rest
        | none => false
    else if c == '\\' then
      match escape? rest with
      | some (.boundary, rest) => !mode.isUnicode && isWellFormedFrom fuel outer names mode true rest
      | some (.set isNegated, rest) =>
        (mode.isUnicode || !isNegated) && isWellFormedFrom fuel outer names mode true rest
      | some (_, rest) => isWellFormedFrom fuel outer names mode true rest
      | none => false
    else if c == '.' then mode.isUnicode && isWellFormedFrom fuel outer names mode true rest
    else if mode.isSpaced && c.isWhitespace then isWellFormedFrom fuel outer names mode hasItem rest
    else if mode.isSpaced && c == '#' then
      isWellFormedFrom fuel outer names mode hasItem (rest.dropWhile (· != '\n'))
    else isWellFormedFrom fuel outer names mode true rest

/-- Whether a pattern is well formed. -/
def isWellFormed (cs : List Char) : Bool := isWellFormedFrom (cs.length + 1) [] [] {} false cs

/-- Whether a text without sign is a number: infinite, none, or digits with a point and an exponent. -/
def isUnsignedNumber (cs : List Char) : Bool :=
  if ["inf", "infinity", "nan"].contains (String.ofList cs).toLower then true
  else
    let whole := cs.takeWhile Char.isDigit
    let rest := cs.drop whole.length
    let places := if rest.head? == some '.' then (rest.drop 1).takeWhile Char.isDigit else []
    let rest := if rest.head? == some '.' then rest.drop (1 + places.length) else rest
    let hasExponent := rest.head? == some 'e' || rest.head? == some 'E'
    let exponent := rest.drop (if [some '+', some '-'].contains (rest[1]?) then 2 else 1)
    !(whole.isEmpty && places.isEmpty) &&
      if hasExponent then !exponent.isEmpty && exponent.all Char.isDigit else rest.isEmpty

/-- Whether a text is a number. -/
def isNumber : List Char → Bool
  | '+' :: rest | '-' :: rest => isUnsignedNumber rest
  | cs => isUnsignedNumber cs

/-- Whether a text may stand for the value of a field. -/
def isValue (cs : List Char) : Bool := isNumber cs || isWellFormed cs

end Shakedown.Log.Pattern
