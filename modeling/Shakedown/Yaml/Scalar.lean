import Shakedown.Yaml.Token

/-!
# Scalars of a text

The reading of quoted, plain and block scalars. Line breaks inside a scalar are folded: a single
one becomes a space, and of several the first is dropped.
-/

namespace Shakedown.Yaml

/-- The text that folded breaks contribute: the first break and those after it. -/
def foldBreaks (first further : List Char) : List Char :=
  match first with
  | ['\n'] => if further.isEmpty then [' '] else further
  | _ => first ++ further

/-- Blanks and breaks between the words of a scalar: blanks on the line before any break, the first
break, the breaks after it, and whether there was a break. Of several the latest comes first. -/
structure Gap where
  blanks : List Char := []
  first : List Char := []
  further : List Char := []
  broken : Bool := false
deriving Repr

namespace Gap

/-- The text that a gap contributes. -/
def text (g : Gap) : List Char := if g.broken then foldBreaks g.first g.further.reverse else g.blanks.reverse

/-- A break joins the gap. -/
def addBreak (g : Gap) (c : Cursor) : Gap :=
  if g.broken then { g with further := c.breakChar ++ g.further }
  else { blanks := [], first := c.breakChar, further := [], broken := true }

/-- A blank joins the gap; blanks after a break contribute nothing. -/
def addBlank (g : Gap) (x : Char) : Gap := if g.broken then g else { g with blanks := x :: g.blanks }

end Gap

/-! ## Quoted scalars -/

/-- The value of a hexadecimal digit. -/
def hexDigit? (c : Char) : Option Nat :=
  if '0' ≤ c ∧ c ≤ '9' then some (c.toNat - 48)
  else if 'a' ≤ c ∧ c ≤ 'f' then some (c.toNat - 87)
  else if 'A' ≤ c ∧ c ≤ 'F' then some (c.toNat - 55)
  else none

/-- The number of a given count of hexadecimal digits. -/
def hexNumber? (count : Nat) (cs : List Char) : Option Nat :=
  let ds := cs.take count
  if ds.length = count then ds.foldlM (fun n c => (hexDigit? c).map fun d => n * 16 + d) 0 else none

/-- The character of an escape without digits. -/
def plainEscape? (c : Char) : Option Char :=
  match c with
  | '0' => some (Char.ofNat 0)
  | 'a' => some (Char.ofNat 7)
  | 'b' => some (Char.ofNat 8)
  | 't' | '\t' => some '\t'
  | 'n' => some '\n'
  | 'v' => some (Char.ofNat 11)
  | 'f' => some (Char.ofNat 12)
  | 'r' => some '\r'
  | 'e' => some (Char.ofNat 27)
  | ' ' | '"' | '/' | '\\' => some c
  | 'N' => some '\u0085'
  | '_' => some '\u00A0'
  | 'L' => some '\u2028'
  | 'P' => some '\u2029'
  | _ => none

/-- The number of hexadecimal digits of an escape. -/
def escapeDigits? (c : Char) : Option Nat :=
  match c with
  | 'x' => some 2
  | 'u' => some 4
  | 'U' => some 8
  | _ => none

/-- The character of an escape at its backslash, and the cursor after it. -/
def escape? (c : Cursor) : Option (Char × Cursor) := do
  let x ← c.peekAt 1
  match plainEscape? x with
  | some y => some (y, c.skipN 2)
  | none => do
    let count ← escapeDigits? x
    let n ← hexNumber? count (c.rest.drop 2)
    if n.isValidChar then some (Char.ofNat n, c.skipN (2 + count)) else none

/-- State inside a quoted scalar: within a word, or in a gap. -/
inductive QuotedPlace where
  | word
  | gap (g : Gap)

/-- The rest of a quoted scalar up to and past its closing quote, onto reversed text. -/
def quotedFrom (double : Bool) : Nat → QuotedPlace → List Char → Cursor → Except Malformed (String × Cursor)
  | 0, _, _, c => .error c.mark
  | fuel + 1, .word, rev, c =>
    match c.peek with
    | none => .error c.mark
    | some x =>
      -- A document does not begin or end within a quoted scalar.
      if c.mark.column == 0 && (c.atMarker '-' || c.atMarker '.') then .error c.mark
      else if isBlank x || isBreak x then quotedFrom double fuel (.gap {}) rev c
      else if !double && x == '\'' then
        -- Two quotes stand for one.
        if c.peekAt 1 == some '\'' then quotedFrom double fuel .word ('\'' :: rev) (c.skipN 2)
        else .ok (String.ofList rev.reverse, c.skip)
      else if double && x == '"' then .ok (String.ofList rev.reverse, c.skip)
      else if double && x == '\\' then
        if (c.peekAt 1).any isBreak then
          -- An escaped line break joins the lines without a space.
          quotedFrom double fuel (.gap { broken := true }) rev c.skip.skipLine
        else
          match escape? c with
          | some (y, c) => quotedFrom double fuel .word (y :: rev) c
          | none => .error c.mark
      else quotedFrom double fuel .word (x :: rev) c.skip
  | fuel + 1, .gap g, rev, c =>
    match c.peek with
    | none => .error c.mark
    | some x =>
      if isBlank x then quotedFrom double fuel (.gap (g.addBlank x)) rev c.skip
      else if isBreak x then quotedFrom double fuel (.gap (g.addBreak c)) rev c.skipLine
      else quotedFrom double fuel .word (g.text.reverse ++ rev) c

/-- A quoted scalar at its opening quote. -/
def quotedScalar (double : Bool) (c : Cursor) : Except Malformed (String × Cursor) :=
  quotedFrom double (2 * c.size + 2) .word [] c.skip

/-! ## Plain scalars -/

/-- What reading a plain scalar leaves: its text, its end, the cursor after the gap that follows,
and whether that gap broke the line. -/
structure PlainScalar where
  text : String
  stop : Mark
  cursor : Cursor
  broken : Bool

/-- Whether a character ends a plain scalar inside brackets. -/
def isFlowStop (c : Char) : Bool := c == ',' || c == '[' || c == ']' || c == '\x7b' || c == '\x7d'

/-- The rest of a plain scalar; `gap` is what has been read since its last word, `indent` the least
column of a continuation line. -/
def plainFrom (flow : Bool) (indent : Int) :
    Nat → Option Gap → List Char → Mark → Cursor → Except Malformed PlainScalar
  | 0, _, _, _, c => .error c.mark
  | fuel + 1, some g, rev, stop, c =>
    match c.peek with
    | some x =>
      if isBlank x then
        -- A continuation line is indented with spaces.
        if g.broken && x == '\t' && (c.mark.column : Int) < indent then .error c.mark
        else plainFrom flow indent fuel (some (g.addBlank x)) rev stop c.skip
      else if isBreak x then plainFrom flow indent fuel (some (g.addBreak c)) rev stop c.skipLine
      else
        let isOver := (!flow && (c.mark.column : Int) < indent) || c.atMarker '-' || c.atMarker '.' || x == '#'
        if isOver then .ok ⟨String.ofList rev.reverse, stop, c, g.broken⟩
        else if flow && x == ':' && (c.peekAt 1).any fun y => isFlowStop y || y == '?' then .error c.mark
        else if (x == ':' && c.gapAt 1) || (flow && isFlowStop x) then
          .ok ⟨String.ofList rev.reverse, stop, c, g.broken⟩
        else plainFrom flow indent fuel none (x :: (g.text.reverse ++ rev)) c.skip.mark c.skip
    | none => .ok ⟨String.ofList rev.reverse, stop, c, g.broken⟩
  | fuel + 1, none, rev, stop, c =>
    match c.peek with
    | some x =>
      if isBlank x || isBreak x then plainFrom flow indent fuel (some {}) rev stop c
      else if flow && x == ':' && (c.peekAt 1).any fun y => isFlowStop y || y == '?' then .error c.mark
      else if (x == ':' && c.gapAt 1) || (flow && isFlowStop x) then
        .ok ⟨String.ofList rev.reverse, stop, c, false⟩
      else plainFrom flow indent fuel none (x :: rev) c.skip.mark c.skip
    | none => .ok ⟨String.ofList rev.reverse, stop, c, false⟩

/-- A plain scalar at its first character. -/
def plainScalar (flow : Bool) (indent : Int) (c : Cursor) : Except Malformed PlainScalar :=
  plainFrom flow indent (2 * c.size + 2) none [] c.mark c

/-! ## Block scalars -/

/-- What happens to the breaks at the end of a block scalar. -/
inductive Chomping where
  | strip
  | clip
  | keep
deriving DecidableEq, Repr

/-- A chomping indicator. -/
def chomping? (c : Option Char) : Option Chomping :=
  match c with
  | some '-' => some .strip
  | some '+' => some .keep
  | _ => none

/-- The header of a block scalar after its indicator: chomping, explicit indentation, cursor. -/
def blockHeader (c : Cursor) : Except Malformed (Chomping × Option Nat × Cursor) :=
  let digit := fun (c : Cursor) => (c.peek.filter Char.isDigit).map fun d => d.toNat - 48
  match chomping? c.peek with
  | some ch =>
    match digit c.skip with
    | some 0 => .error c.mark
    | some n => .ok (ch, some n, c.skipN 2)
    | none => .ok (ch, none, c.skip)
  | none =>
    match digit c with
    | some 0 => .error c.mark
    | some n =>
      match chomping? c.skip.peek with
      | some ch => .ok (ch, some n, c.skipN 2)
      | none => .ok (.clip, some n, c.skip)
    | none => .ok (.clip, none, c)

/-- The empty lines at a place of a block scalar: their breaks, the widest indentation seen, and
the cursor after the indentation of the next line. An indentation of zero is not known yet. -/
def blockBreaks (indent : Nat) : Nat → Nat → List Char → Cursor → Except Malformed (List Char × Nat × Cursor)
  | 0, _, _, c => .error c.mark
  | fuel + 1, widest, breaks, c =>
    let inside := indent = 0 || c.mark.column < indent
    if inside && c.sees ' ' then blockBreaks indent fuel widest breaks c.skip
    else
      let widest := max widest c.mark.column
      if inside && c.sees '\t' then .error c.mark
      else if c.atBreak then blockBreaks indent fuel widest (breaks ++ c.breakChar) c.skipLine
      else .ok (breaks, widest, c)

/-- The lines of a block scalar, onto reversed text. `leading` is the break after the last line,
`breaks` those of empty lines since, `afterBlank` whether the last line began with a blank. -/
def blockLines (folded : Bool) (chomp : Chomping) (indent : Nat) :
    Nat → List Char → List Char → List Char → Bool → Cursor → Except Malformed (String × Cursor)
  | 0, _, _, _, _, c => .error c.mark
  | fuel + 1, rev, leading, breaks, afterBlank, c =>
    if c.mark.column = indent && !c.atEnd then
      let startsBlank := c.atBlank
      -- Folding joins two lines unless one of them begins with a blank.
      let joint :=
        if folded && leading == ['\n'] && !afterBlank && !startsBlank then
          (if breaks.isEmpty then [' '] else []) ++ breaks
        else leading ++ breaks
      let line := c.takeWhile fun x => !isBreak x
      let after := c.skipToBreak
      match blockBreaks indent (after.size + 1) 0 [] after.skipLine with
      | .ok (next, _, c) =>
        blockLines folded chomp indent fuel (line.reverse ++ (joint.reverse ++ rev)) after.breakChar next
          startsBlank c
      | .error m => .error m
    else
      let tail := match chomp with
        | .strip => []
        | .clip => leading
        | .keep => leading ++ breaks
      .ok (String.ofList (tail.reverse ++ rev).reverse, c)

/-- A block scalar at its indicator, inside a block of the given indentation. -/
def blockScalar (folded : Bool) (parent : Int) (c : Cursor) : Except Malformed (String × Cursor) := do
  let (chomp, explicit, c) ← blockHeader c.skip
  let c := c.dropWhile isBlank
  let c := if c.sees '#' then c.skipToBreak else c
  if !(c.atEnd || c.atBreak) then throw c.mark
  let c := c.skipLine
  let known := match explicit with
    | some n => if 0 ≤ parent then parent.toNat + n else n
    | none => 0
  let (breaks, widest, c) ← blockBreaks known (c.size + 1) 0 [] c
  let indent := if known = 0 then max (max widest (parent + 1).toNat) 1 else known
  blockLines folded chomp indent (c.size + 1) [] [] breaks false c

end Shakedown.Yaml
