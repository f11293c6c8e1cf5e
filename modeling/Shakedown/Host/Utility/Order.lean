import Shakedown.Host.Utility.Lines

/-!
# Programs that put lines in order

Sorting by keys, runs of equal lines, and sequences of numbers.
-/

namespace Shakedown.Host.Utility

/-! ## Keys -/

/-- A key of a line: from a field and character on, up to a field and character or to the end, compared
in the ways that the letters tell. -/
structure SortKey where
  field : Nat
  char : Nat := 0
  last : Option (Nat × Nat) := none
  ways : List Char := []

/-- A number and what follows it. -/
def leadingNumber (cs : List Char) : Option (Nat × List Char) :=
  let digits := cs.takeWhile Char.isDigit
  (String.ofList digits).toNat?.map fun n => (n, cs.drop digits.length)

/-- A field and a character in it, with the letters after them, and what follows. -/
def keyPosition? (cs : List Char) : Option (Nat × Nat × List Char × List Char) := do
  let (field, rest) ← leadingNumber cs
  let (char, rest) ← match rest with
    | '.' :: rest => leadingNumber rest
    | rest => some (0, rest)
  let ways := rest.takeWhile fun c => "bdfginr".toList.contains c
  return (field, char, ways, rest.drop ways.length)

/-- The key that a value writes. -/
def sortKey? (value : String) : Option SortKey := do
  let (field, char, ways, rest) ← keyPosition? value.toList
  if field == 0 then none
  match rest with
  | [] => return ⟨field, char - 1, none, ways⟩
  | ',' :: rest =>
    let (last, lastChar, more, rest) ← keyPosition? rest
    if last == 0 || !rest.isEmpty then none
    return ⟨field, char - 1, some (last, lastChar), ways ++ more⟩
  | _ => none

/-- Blank characters of a line. -/
def isGap (c : Char) : Bool := c == ' ' || c == '\t'

/-- The text after a number of fields, which a separator ends or blanks begin. -/
def afterFields (separator : Option Char) : Nat → List Char → List Char
  | 0, cs => cs
  | n + 1, cs =>
    match separator with
    | some s => afterFields separator n ((cs.dropWhile (· != s)).drop 1)
    | none => afterFields separator n ((cs.dropWhile isGap).dropWhile fun c => !isGap c)

/-- The text of a key in a line. -/
def SortKey.text (k : SortKey) (separator : Option Char) (line : List Char) : List Char :=
  let skip (cs : List Char) : List Char := if k.ways.contains 'b' then cs.dropWhile isGap else cs
  let start := (skip (afterFields separator (k.field - 1) line)).drop k.char
  match k.last with
  | none => start
  | some (field, 0) =>
    let rest := afterFields separator field line
    let stop := line.length - rest.length
    let closed := match separator with
      | some s => if (line.take stop).getLast? == some s && (0 < rest.length || line.getLast? == some s) then stop - 1 else stop
      | none => stop
    start.take (closed - (line.length - start.length))
  | some (field, char) =>
    let rest := (skip (afterFields separator (field - 1) line)).drop char
    start.take ((line.length - rest.length) - (line.length - start.length))

/-! ## Comparison -/

/-- The order of texts by their characters. -/
def compareChars : List Char → List Char → Ordering
  | [], [] => .eq
  | [], _ :: _ => .lt
  | _ :: _, [] => .gt
  | a :: as, b :: bs => if a == b then compareChars as bs else if a < b then .lt else .gt

/-- The number that a text starts with: whether it is negative, its whole digits, and its places. -/
def numberAtStart (cs : List Char) : Bool × List Char × List Char :=
  let cs := cs.dropWhile isGap
  let negative := cs.head? == some '-'
  let cs := if negative then cs.drop 1 else cs
  let whole := cs.takeWhile Char.isDigit
  let places := match cs.drop whole.length with
    | '.' :: rest => rest.takeWhile Char.isDigit
    | _ => []
  (negative, whole, places)

/-- The order of texts by the numbers that they start with. -/
def compareNumbers (a b : List Char) : Ordering :=
  let (negativeA, wholeA, placesA) := numberAtStart a
  let (negativeB, wholeB, placesB) := numberAtStart b
  let width := max placesA.length placesB.length
  let scaled (negative : Bool) (whole places : List Char) : Int :=
    let digits := whole ++ places ++ List.replicate (width - places.length) '0'
    let n : Nat := digits.foldl (fun n c => n * 10 + (c.toNat - 48)) 0
    if negative then -(n : Int) else n
  compare (scaled negativeA wholeA placesA) (scaled negativeB wholeB placesB)

/-- The order of two texts in some ways. -/
def compareIn (ways : List Char) (a b : List Char) : Ordering :=
  let prepared (cs : List Char) : List Char :=
    let cs := if ways.contains 'd' then cs.filter fun c => isGap c || c.isAlphanum else cs
    let cs := if ways.contains 'i' then cs.filter fun c => ' ' ≤ c && c ≤ '~' else cs
    if ways.contains 'f' then cs.map Char.toUpper else cs
  let order := if ways.contains 'n' || ways.contains 'g' then compareNumbers a b
    else compareChars (prepared a) (prepared b)
  if ways.contains 'r' then order.swap else order

/-- How lines are sorted: their keys and separator, the ways of keys without their own, and whether
equal keys settle the order. -/
structure Sorting where
  keys : List SortKey := []
  separator : Option Char := none
  ways : List Char := []
  isStable : Bool := false
  isUnique : Bool := false

/-- The order of two lines by their keys. -/
def Sorting.compareKeys (s : Sorting) (a b : List Char) : Ordering :=
  let keys := if s.keys.isEmpty && s.ways.any (· != 'r') then [⟨1, 0, none, []⟩] else s.keys
  keys.foldl (fun order k =>
    if order != .eq then order
    else
      let k := if k.ways.isEmpty then { k with ways := s.ways } else k
      compareIn k.ways (k.text s.separator a) (k.text s.separator b)) .eq

/-- The order of two whole lines. -/
def Sorting.compareLines (s : Sorting) (a b : List Char) : Ordering :=
  if s.ways.contains 'r' then (compareChars a b).swap else compareChars a b

/-- The order of two lines. -/
def Sorting.compare (s : Sorting) (a b : List Char) : Ordering :=
  let byKeys := s.compareKeys a b
  let hasKeys := !s.keys.isEmpty || s.ways.any (· != 'r')
  if byKeys != .eq then byKeys
  else if hasKeys && (s.isStable || s.isUnique) then .eq
  else s.compareLines a b

/-- Lines of which none is equal to the one before it. -/
def withoutRuns (same : List Char → List Char → Bool) : Option (List Char) → List (List Char) → List (List Char)
  | _, [] => []
  | some previous, l :: rest =>
    if same previous l then withoutRuns same (some previous) rest else l :: withoutRuns same (some l) rest
  | none, l :: rest => l :: withoutRuns same (some l) rest

/-- The number of the first line that is out of order, and the line. -/
def disorder (bad : List Char → List Char → Bool) : Nat → List (List Char) → Option (Nat × List Char)
  | n, a :: b :: rest => if bad a b then some (n + 1, b) else disorder bad (n + 1) (b :: rest)
  | _, _ => none

/-- The options of `sort`. -/
def sortOptions : OptionTable :=
  { plain := "bdfghinrsuczmCMRV", valued := "kotS",
    long := [("reverse", 'r'), ("numeric-sort", 'n'), ("unique", 'u'), ("key", 'k'), ("field-separator", 't'),
      ("ignore-case", 'f'), ("ignore-leading-blanks", 'b'), ("stable", 's'), ("check", 'c'), ("output", 'o')] }

/-- The program that sorts lines. -/
def sort (sc : Scope) : Result :=
  sc.withOptions sortOptions 2 fun o =>
    let values := (o.given.filter (·.1 == 'k')).map (·.2)
    match values.find? fun v => (sortKey? v).isNone, (o.value? 't').map charsOfText with
    | some v, _ =>
      if (v.toList.head?.any Char.isDigit) then sc.complain s!"field number is zero: invalid field specification {inQuotes v}" 2
      else sc.complain s!"invalid number at field start: invalid count at start of {inQuotes v}" 2
    | none, some [] => sc.complain "empty tab" 2
    | none, separator =>
      if (separator.any fun t => 1 < t.length && t != ['\\', '0']) then
        let text := (o.value? 't').getD ""
        sc.complain s!"multi-character tab {inQuotes text}" 2
      else
        let s : Sorting :=
          { keys := values.filterMap sortKey?, separator := separator.bind List.head?,
            ways := (o.given.map (·.1)).filter fun c => "bdfginr".toList.contains c,
            isStable := o.has 's', isUnique := o.has 'u' }
        let complaint (n : String) (e : OsError) : String :=
          if e == .isDirectory then s!"read failed: {n}: {e.words}" else s!"cannot read: {n}: {e.words}"
        match (sc.contents o.operands).find? fun f => !f.2.isOk with
        | some (n, .error e) => sc.complain (complaint n e) 2
        | _ =>
          let all := (sc.contents o.operands).flatMap fun f => (bareLines (f.2.toOption.getD [])).map charsOf
          if o.has 'c' || o.has 'C' then
            let bad (a b : List Char) : Bool := s.compare a b == .gt || (s.isUnique && s.compare a b == .eq)
            match disorder bad 1 all with
            | none => sc.done 0
            | some (n, l) =>
              if o.has 'C' then sc.done 1
              else
                let name := o.operands.headD "-"
                sc.complain s!"{name}:{n}: disorder: {String.ofList l}" 1
          else
            let sorted := all.mergeSort fun a b => s.compare a b != .gt
            let kept := if s.isUnique then withoutRuns (fun a b => s.compare a b == .eq) none sorted else sorted
            let out := joinLines (kept.map ofChars)
            match o.value? 'o' with
            | none => sc.put out
            | some n =>
              match sc.files.write sc.here n out with
              | .ok files => { files := files }
              | .error e => sc.complain s!"open failed: {n}: {e.words}" 2

/-! ## Runs of equal lines -/

/-- Lines with the number of times that each stands in a row. -/
def runs (same : List Char → List Char → Bool) : List (List Char) → List (Nat × List Char)
  | [] => []
  | l :: rest =>
    match runs same rest with
    | (n, first) :: more => if same l first then (n + 1, l) :: more else (1, l) :: (n, first) :: more
    | [] => [(1, l)]

/-- The options of `uniq`. -/
def uniqueOptions : OptionTable :=
  { plain := "cdDuiz", valued := "fsw",
    long := [("count", 'c'), ("repeated", 'd'), ("unique", 'u'), ("ignore-case", 'i'), ("skip-fields", 'f'),
      ("skip-chars", 's'), ("check-chars", 'w')] }

/-- The program that leaves out lines equal to the one before. -/
def unique (sc : Scope) : Result :=
  sc.withOptions uniqueOptions 1 fun o =>
    match o.operands with
    | _ :: _ :: extra :: _ => sc.misuse s!"extra operand {inQuotes extra}" 1
    | operands =>
      let number (c : Char) : Nat := ((o.value? c).bind String.toNat?).getD 0
      let key (l : List Char) : List Char :=
        let l := (afterFields none (number 'f') l).drop (number 's')
        let l := match o.value? 'w' with
          | some _ => l.take (number 'w')
          | none => l
        if o.has 'i' then l.map Char.toUpper else l
      match (sc.contents (operands.take 1)).head? with
      | some (_, .ok bytes) =>
        let all := runs (fun a b => key a == key b) ((bareLines bytes).map charsOf)
        let kept := all.filter fun (n, _) => (!o.has 'd' || 1 < n) && (!o.has 'u' || n == 1)
        let out := kept.flatMap fun (n, l) =>
          (if o.has 'c' then bytesOf (padded 7 (toString n) ++ " ") else []) ++ ofChars l ++ [10]
        match operands.drop 1 with
        | target :: _ =>
          match sc.files.write sc.here target out with
          | .ok files => { files := files }
          | .error e => sc.complain (plainComplaint target e) 1
        | [] => sc.put out
      | some (n, .error e) =>
        sc.complain (if e == .isDirectory then s!"error reading {inQuotes n}" else plainComplaint n e) 1
      | none => sc.done 0

/-! ## Sequences -/

/-- A decimal number: its digits as an integer, and how many of them are places. -/
structure Decimal where
  digits : Int
  places : Nat
deriving DecidableEq, Repr

/-- The decimal number that a text writes. -/
def decimal? (s : String) : Option Decimal :=
  let cs := s.toList
  let negative := cs.head? == some '-'
  let cs := if negative || cs.head? == some '+' then cs.drop 1 else cs
  let whole := cs.takeWhile Char.isDigit
  let (places, rest) := match cs.drop whole.length with
    | '.' :: rest => (rest.takeWhile Char.isDigit, rest.drop (rest.takeWhile Char.isDigit).length)
    | rest => ([], rest)
  if !rest.isEmpty || (whole ++ places).isEmpty then none
  else
    let n : Nat := (whole ++ places).foldl (fun n c => n * 10 + (c.toNat - 48)) 0
    some ⟨if negative then -(n : Int) else n, places.length⟩

/-- The digits of a decimal number with so many places. -/
def Decimal.scaledTo (d : Decimal) (places : Nat) : Int := d.digits * (Nat.pow 10 (places - d.places) : Nat)

/-- A number of so many places as a text. -/
def decimalText (places : Nat) (n : Int) : String :=
  let digits := toString n.natAbs
  let filled := String.ofList (List.replicate (places + 1 - digits.length) '0') ++ digits
  let sign := if n < 0 then "-" else ""
  if places == 0 then sign ++ filled
  else
    let whole := filled.length - places
    sign ++ (filled.take whole).toString ++ "." ++ (filled.drop whole).toString

/-- A number with zeros after its sign up to a width. -/
def zeroFilled (width : Nat) (s : String) : String :=
  let fill := String.ofList (List.replicate (width - s.length) '0')
  if s.startsWith "-" then "-" ++ fill ++ (s.drop 1).toString else fill ++ s

/-- The numbers from a first one in steps up or down to a last one, as texts. -/
def sequenceTexts (first step last : Decimal) (equalWidth : Bool) : List String :=
  let places := max first.places step.places
  let all := max places last.places
  let f := first.scaledTo all
  let s := step.scaledTo all
  let l := last.scaledTo all
  let terms := if 0 < s then (l - f) / s + 1 else (f - l) / (-s) + 1
  let unit : Int := (Nat.pow 10 (all - places) : Nat)
  let texts := (List.range terms.toNat).map fun (i : Nat) => decimalText places ((f + s * i) / unit)
  let width := max (decimalText places (f / unit)).length (decimalText places (l / unit)).length
  if equalWidth then texts.map (zeroFilled width) else texts

/-- The arguments of `seq`: a negative number is no option. -/
def sequenceArguments : Options → List String → Except String Options
  | o, [] => .ok o
  | o, "-w" :: rest | o, "--equal-width" :: rest => sequenceArguments (o.add 'w' "") rest
  | o, "-s" :: value :: rest => sequenceArguments (o.add 's' value) rest
  | o, a :: rest =>
    if a.startsWith "-s" && 2 < a.length then sequenceArguments (o.add 's' (a.drop 2).toString) rest
    else if a.startsWith "--separator=" then sequenceArguments (o.add 's' (a.drop 12).toString) rest
    else if a == "--" then .ok { o with operands := rest }
    else if a.startsWith "-" && (decimal? a).isNone && a != "-" then
      let letter := (a.drop 1).toString.take 1
      .error s!"invalid option -- '{letter}'"
    else .ok { o with operands := a :: rest }

/-- The program that counts up or down. -/
def sequence (sc : Scope) : Result :=
  match sequenceArguments {} sc.args with
  | .error message => sc.misuse message 1
  | .ok o =>
    match o.operands with
    | [] => sc.misuse "missing operand" 1
    | _ :: _ :: _ :: extra :: _ => sc.misuse s!"extra operand {inQuotes extra}" 1
    | operands =>
      match operands.find? fun a => (decimal? a).isNone with
      | some a => sc.misuse s!"invalid floating point argument: {inQuotes a}" 1
      | none =>
        let run (first step last : Decimal) : Result :=
          if step.digits == 0 then
            let text := (operands[1]?).getD "0"
            sc.misuse s!"invalid Zero increment value: {inQuotes text}" 1
          else
            let texts := sequenceTexts first step last (o.has 'w')
            if texts.isEmpty then sc.done 0
            else sc.put (bytesOf (((o.value? 's').getD "\n").intercalate texts ++ "\n"))
        match operands.filterMap decimal? with
        | [last] => run ⟨1, 0⟩ ⟨1, 0⟩ last
        | [first, last] => run first ⟨1, 0⟩ last
        | [first, step, last] => run first step last
        | _ => sc.done 0

end Shakedown.Host.Utility
