/-!
# Shell patterns

A pattern matches a whole text: `*` any characters, `?` one, a bracket expression one of a set, and
every other character itself.
-/

namespace Shakedown.Host.Shell

/-- An item of a bracket expression: a range of characters, or a named class. -/
inductive BracketItem where
  | range (low high : Char)
  | named (name : String)
deriving DecidableEq, Repr

/-- A pattern, item by item. -/
inductive PatternItem where
  | char (c : Char)
  | any
  | many
  | bracket (negated : Bool) (items : List BracketItem)
deriving DecidableEq, Repr

/-- Whether a character belongs to a named class. -/
def inNamedClass (name : String) (c : Char) : Bool :=
  match name with
  | "alpha" => c.isAlpha
  | "digit" => c.isDigit
  | "alnum" => c.isAlphanum
  | "upper" => c.isUpper
  | "lower" => c.isLower
  | "space" => c == ' ' || (9 ≤ c.toNat && c.toNat ≤ 13)
  | "punct" => 33 ≤ c.toNat && c.toNat ≤ 126 && !c.isAlphanum
  | "blank" => c == ' ' || c == '\t'
  | "print" => 32 ≤ c.toNat && c.toNat ≤ 126
  | "graph" => 33 ≤ c.toNat && c.toNat ≤ 126
  | "cntrl" => c.toNat < 32 || c.toNat == 127
  | "xdigit" => c.isDigit || ('a' ≤ c && c ≤ 'f') || ('A' ≤ c && c ≤ 'F')
  | _ => false

/-- Whether a character is in an item of a bracket expression. -/
def BracketItem.holds (c : Char) : BracketItem → Bool
  | .range low high => low ≤ c && c ≤ high
  | .named name => inNamedClass name c

/-- The items of a bracket expression up to its closing bracket; a bracket that comes first stands
for itself. -/
def bracketItems : Nat → Bool → List Char → Option (List BracketItem × List Char)
  | 0, _, _ => none
  | fuel + 1, isFirst, cs =>
    match cs with
    | [] => none
    | '[' :: ':' :: rest =>
      let name := rest.takeWhile (· != ':')
      match rest.drop name.length with
      | ':' :: ']' :: rest =>
        (bracketItems fuel false rest).map fun r => (.named (String.ofList name) :: r.1, r.2)
      | _ => none
    | ']' :: rest =>
      if isFirst then (bracketItems fuel false rest).map fun r => (.range ']' ']' :: r.1, r.2)
      else some ([], rest)
    | low :: '-' :: high :: rest =>
      if high == ']' then
        (bracketItems fuel false ('-' :: high :: rest)).map fun r => (.range low low :: r.1, r.2)
      else (bracketItems fuel false rest).map fun r => (.range low high :: r.1, r.2)
    | c :: rest => (bracketItems fuel false rest).map fun r => (.range c c :: r.1, r.2)

/-- The pattern that characters write; quoted ones stand for themselves. -/
def patternFrom : Nat → List (Char × Bool) → List PatternItem
  | 0, _ => []
  | _ + 1, [] => []
  | fuel + 1, (c, quoted) :: rest =>
    if quoted then .char c :: patternFrom fuel rest
    else if c == '*' then .many :: patternFrom fuel rest
    else if c == '?' then .any :: patternFrom fuel rest
    else if c == '[' then
      let plain := rest.map (·.1)
      let negated := plain.head? == some '!' || plain.head? == some '^'
      let body := if negated then plain.drop 1 else plain
      match bracketItems (body.length + 1) true body with
      | some (items, after) => .bracket negated items :: patternFrom fuel (rest.drop (rest.length - after.length))
      | none => .char c :: patternFrom fuel rest
    else .char c :: patternFrom fuel rest

/-- The pattern that characters write. -/
def pattern (cs : List (Char × Bool)) : List PatternItem := patternFrom (cs.length + 1) cs

/-- Whether characters match a pattern from here on. -/
def matchesAll : List PatternItem → List Char → Bool
  | [], cs => cs.isEmpty
  | .char x :: items, c :: rest => x == c && matchesAll items rest
  | .any :: items, _ :: rest => matchesAll items rest
  | .bracket negated set :: items, c :: rest => (set.any fun i => i.holds c) != negated && matchesAll items rest
  | .many :: items, cs => matchesMany items cs
  | _ :: _, [] => false
where
  /-- Whether some end of the characters matches a pattern. -/
  matchesMany (items : List PatternItem) : List Char → Bool
    | [] => matchesAll items []
    | c :: rest => matchesAll items (c :: rest) || matchesMany items rest

/-- Whether characters have parts that a pattern could match in more than one way. -/
def hasWildcards (cs : List (Char × Bool)) : Bool :=
  cs.any fun (c, quoted) => !quoted && (c == '*' || c == '?' || c == '[')

end Shakedown.Host.Shell
