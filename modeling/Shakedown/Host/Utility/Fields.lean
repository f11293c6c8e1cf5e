import Shakedown.Host.Utility.Lines

/-!
# Programs over parts of lines

Cutting out characters and fields, and replacing or deleting characters.
-/

namespace Shakedown.Host.Utility

/-! ## Cutting -/

/-- Positions from a first one to a last one or to the end, counted from one. -/
structure Span where
  first : Nat
  last : Option Nat
deriving DecidableEq, Repr

/-- Whether a position is in a span. -/
def Span.holds (s : Span) (i : Nat) : Bool := s.first ≤ i && s.last.all (i ≤ ·)

/-- The span that a part of a list writes. -/
def span? (isField : Bool) (part : String) : Except String Span :=
  let zero := if isField then "fields are numbered from 1" else "byte/character positions are numbered from 1"
  let invalid := if isField then "invalid field value " else "invalid byte or character position "
  let number (s : String) : Except String Nat :=
    match s.toNat? with
    | some n => if s.all Char.isDigit then if n == 0 then .error zero else .ok n else .error (invalid ++ inQuotes s)
    | none => .error (invalid ++ inQuotes s)
  match part.splitOn "-" with
  | [""] => .error zero
  | [one] => (number one).map fun n => ⟨n, some n⟩
  | ["", ""] => .error "invalid range with no endpoint: -"
  | [first, ""] => (number first).map fun n => ⟨n, none⟩
  | ["", last] => (number last).map fun n => ⟨1, some n⟩
  | [first, last] => do
    let a ← number first
    let b ← number last
    if b < a then throw "invalid decreasing range"
    return ⟨a, some b⟩
  | _ => .error (if isField then "invalid field range" else "invalid byte or character range")

/-- The spans that a list writes, in order. -/
def spans? (isField : Bool) (list : String) : Except String (List Span) := do
  let parts := (list.split fun c => c == ',' || c == ' ' || c == '\t').toList.map (·.toString)
  let all ← parts.mapM (span? isField)
  return all.mergeSort fun a b => a.first ≤ b.first

/-- The fields of a line between delimiters. -/
def fieldsOf (delimiter : UInt8) (rev : List UInt8) : List UInt8 → List (List UInt8)
  | [] => [rev.reverse]
  | b :: rest => if b == delimiter then rev.reverse :: fieldsOf delimiter [] rest else fieldsOf delimiter (b :: rev) rest

/-- The pieces at positions that are chosen. -/
def chosen {α : Type} (holds : Nat → Bool) (pieces : List α) : List α :=
  (pieces.zipIdx 1).filterMap fun (p, i) => if holds i then some p else none

/-- Chosen bytes with a text between those that do not follow each other in one span. -/
def separated (spans : List Span) (holds : Nat → Bool) (between : List UInt8) (line : List UInt8) : List UInt8 :=
  let step (s : List UInt8 × Bool × Bool) (piece : UInt8 × Nat) : List UInt8 × Bool × Bool :=
    let (out, any, wasIn) := s
    if holds piece.2 then
      let startsSpan := spans.any fun p => p.first == piece.2 &&
        !(spans.any fun q => q.first < piece.2 && q.holds piece.2)
      let gap := if any && (!wasIn || startsSpan) then between else []
      (out ++ gap ++ [piece.1], true, true)
    else (out, any, false)
  ((line.zipIdx 1).foldl step ([], false, false)).1

/-- The options of `cut`. -/
def cutOptions : OptionTable :=
  { plain := "nsCz", valued := "bcfdO",
    long := [("bytes", 'b'), ("characters", 'c'), ("fields", 'f'), ("delimiter", 'd'), ("only-delimited", 's'),
      ("complement", 'C'), ("output-delimiter", 'O')] }

/-- The program that cuts out parts of lines. -/
def cut (sc : Scope) : Result :=
  sc.withOptions cutOptions 1 fun o =>
    match o.given.filter fun g => "bcf".toList.contains g.1 with
    | [] => sc.misuse "you must specify a list of bytes, characters, or fields" 1
    | _ :: _ :: _ => sc.misuse "only one list may be specified" 1
    | [(kind, list)] =>
      let isField := kind == 'f'
      let delimiter := (o.value? 'd').map bytesOf
      if delimiter.any fun d => 1 < d.length then sc.misuse "the delimiter must be a single character" 1
      else if o.has 'd' && !isField then
        sc.misuse "an input delimiter may be specified only when operating on fields" 1
      else if o.has 's' && !isField then
        sc.misuse "suppressing non-delimited lines makes sense\n\tonly when operating on fields" 1
      else
        match spans? isField list with
        | .error message => sc.misuse message 1
        | .ok spans =>
          let holds (i : Nat) : Bool := (spans.any fun s => s.holds i) != o.has 'C'
          let split := (delimiter.getD [9]).headD 0
          let between := (o.value? 'O').map bytesOf
          let part (line : List UInt8) : Option (List UInt8) :=
            if isField then
              match fieldsOf split [] line with
              | [_] => if o.has 's' then none else some line
              | fields => some ((between.getD [split]).intercalate (chosen holds fields))
            else
              match between with
              | some b => some (separated spans holds b line)
              | none => some (chosen holds line)
          sc.overFiles o.operands 1 plainComplaint fun _ bytes => joinLines ((bareLines bytes).filterMap part)

/-! ## Translating -/

/-- The characters of a named class, in order. -/
def classMembers? (name : String) : Option (List Char) :=
  let all := (List.range 256).map Char.ofNat
  match name with
  | "alpha" => some (all.filter Char.isAlpha)
  | "digit" => some (all.filter Char.isDigit)
  | "alnum" => some (all.filter Char.isAlphanum)
  | "upper" => some (all.filter Char.isUpper)
  | "lower" => some (all.filter Char.isLower)
  | "space" => some (all.filter fun c => c == ' ' || (9 ≤ c.toNat && c.toNat ≤ 13))
  | "blank" => some ['\t', ' ']
  | "punct" => some (all.filter fun c => 33 ≤ c.toNat && c.toNat ≤ 126 && !c.isAlphanum)
  | "print" => some (all.filter fun c => 32 ≤ c.toNat && c.toNat ≤ 126)
  | "graph" => some (all.filter fun c => 33 ≤ c.toNat && c.toNat ≤ 126)
  | "cntrl" => some (all.filter fun c => c.toNat < 32 || c.toNat == 127)
  | "xdigit" => some (all.filter fun c => c.isDigit || ('a' ≤ c && c ≤ 'f') || ('A' ≤ c && c ≤ 'F'))
  | _ => none

/-- Octal digits. -/
def isOctalDigit (c : Char) : Bool := '0' ≤ c && c ≤ '7'

/-- One character of a set, perhaps escaped, and what follows. -/
def setChar? : List Char → Option (Char × List Char)
  | [] => none
  | '\\' :: c :: rest =>
    if isOctalDigit c then
      let digits := (c :: rest).take 3 |>.takeWhile isOctalDigit
      let n := digits.foldl (fun n d => n * 8 + (d.toNat - 48)) 0
      some (Char.ofNat (n % 256), (c :: rest).drop digits.length)
    else
      some ((([('a', '\x07'), ('b', '\x08'), ('f', '\x0c'), ('n', '\n'), ('r', '\r'), ('t', '\t'), ('v', '\x0b')] :
        List (Char × Char)).lookup c).getD c, rest)
  | c :: rest => some (c, rest)

/-- A piece of a set: characters, or one that is repeated so often, or as often as it takes. -/
inductive SetPiece where
  | chars (cs : List Char)
  | repeated (c : Char) (count : Option Nat)
deriving DecidableEq, Repr

/-- The pieces of a set, or the complaint. -/
def setPieces : Nat → List Char → Except String (List SetPiece)
  | 0, _ => .ok []
  | _ + 1, [] => .ok []
  | fuel + 1, '[' :: ':' :: rest =>
    let name := rest.takeWhile (· != ':')
    match rest.drop name.length, classMembers? (String.ofList name) with
    | ':' :: ']' :: rest, some cs => do return .chars cs :: (← setPieces fuel rest)
    | ':' :: ']' :: _, none => .error s!"invalid character class {inQuotes (String.ofList name)}"
    | _, _ => do return .chars ['['] :: (← setPieces fuel (':' :: rest))
  | fuel + 1, '[' :: '=' :: c :: '=' :: ']' :: rest => do return .chars [c] :: (← setPieces fuel rest)
  | fuel + 1, cs =>
    let repeated? : Option (SetPiece × List Char) :=
      match cs with
      | '[' :: rest =>
        match setChar? rest with
        | some (c, '*' :: rest) =>
          let digits := rest.takeWhile Char.isDigit
          let base := if digits.head? == some '0' then 8 else 10
          let n := digits.foldl (fun n d => n * base + (d.toNat - 48)) 0
          match rest.drop digits.length with
          | ']' :: rest => some (.repeated c (if n == 0 then none else some n), rest)
          | _ => none
        | _ => none
      | _ => none
    match repeated? with
    | some (piece, rest) => do return piece :: (← setPieces fuel rest)
    | none =>
      match setChar? cs with
      | none => .ok []
      | some (low, '-' :: rest) =>
        match setChar? rest with
        | some (high, after) =>
          if high < low then
            .error (s!"range-endpoints of '{String.ofList (cs.take (cs.length - after.length))}' are in reverse " ++
              "collating sequence order")
          else do
            return .chars ((List.range (high.toNat + 1 - low.toNat)).map fun i => Char.ofNat (low.toNat + i)) ::
              (← setPieces fuel after)
        | none => do return .chars [low] :: (← setPieces fuel ('-' :: rest))
      | some (c, rest) => do return .chars [c] :: (← setPieces fuel rest)

/-- The characters of pieces, of which one may be repeated up to a length. -/
def spread (length : Nat) (pieces : List SetPiece) : List Char :=
  let fixed := pieces.foldl (fun n p => match p with
    | .chars cs => n + cs.length
    | .repeated _ (some k) => n + k
    | .repeated _ none => n) 0
  pieces.flatMap fun p => match p with
    | .chars cs => cs
    | .repeated c (some k) => List.replicate k c
    | .repeated c none => List.replicate (length - fixed) c

/-- Characters of which none of a set follows itself. -/
def squeeze (set : List Char) : Option Char → List Char → List Char
  | _, [] => []
  | previous, c :: rest =>
    if previous == some c && set.contains c then squeeze set previous rest else c :: squeeze set (some c) rest

/-- The options of `tr`. -/
def translateOptions : OptionTable :=
  { plain := "cCdst",
    long := [("complement", 'c'), ("delete", 'd'), ("squeeze-repeats", 's'), ("truncate-set1", 't')] }

/-- The program that replaces, deletes or squeezes characters. -/
def translate (sc : Scope) : Result :=
  sc.withOptions translateOptions 1 fun o =>
    let text := charsOf sc.input
    let deletes := o.has 'd'
    let squeezes := o.has 's'
    let put (cs : List Char) : Result := sc.put (ofChars cs)
    match o.operands with
    | [] => sc.misuse "missing operand" 1
    | [only] =>
      if deletes == squeezes then
        let why := if deletes then "Two strings must be given when both deleting and squeezing repeats."
          else "Two strings must be given when translating."
        sc.misuse s!"missing operand after {inQuotes only}\n{why}" 1
      else
        match setPieces (only.utf8ByteSize + 1) (charsOfText only) with
        | .error message => sc.complain message 1
        | .ok pieces =>
          let set := spread 0 pieces
          let holds (c : Char) : Bool := set.contains c != (o.has 'c' || o.has 'C')
          if deletes then put (text.filter fun c => !holds c)
          else put (squeeze (((List.range 256).map Char.ofNat).filter holds) none text)
    | _ :: _ :: extra :: _ => sc.misuse s!"extra operand {inQuotes extra}" 1
    | [first, second] =>
      if deletes && !squeezes then
        sc.misuse (s!"extra operand {inQuotes second}\n" ++
          "Only one string may be given when deleting without squeezing repeats.") 1
      else
        match setPieces (first.utf8ByteSize + 1) (charsOfText first), setPieces (second.utf8ByteSize + 1) (charsOfText second) with
        | .error message, _ | _, .error message => sc.complain message 1
        | .ok source, .ok target =>
          let set := spread 0 source
          let source := if o.has 'c' || o.has 'C' then ((List.range 256).map Char.ofNat).filter fun c => !set.contains c
            else set
          let target := spread source.length target
          if deletes then put (squeeze target none (text.filter fun c => !source.contains c))
          else if target.isEmpty && !o.has 't' then
            sc.complain "when not truncating set1, string2 must be non-empty" 1
          else
            let source := if o.has 't' then source.take target.length else source
            let image (c : Char) : Char :=
              match (source.reverse.findIdx? (· == c)).map fun i => source.length - 1 - i with
              | some i => ((target[i]?).orElse fun _ => target.getLast?).getD c
              | none => c
            let mapped := text.map image
            put (if squeezes then squeeze target none mapped else mapped)

end Shakedown.Host.Utility
