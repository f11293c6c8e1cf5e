import Shakedown.Toml.Scalar
import Shakedown.Toml.Table

/-!
# Documents from text

Values, entries, headers and whole documents. Arrays and tables between braces nest fewer than 80
levels, and a key has fewer than 80 parts.
-/

namespace Shakedown.Toml

open Reader

/-- The bound on nesting and on the parts of a key. -/
def depthLimit : Nat := 80

/-- One part of a key. -/
def keyPart : Reader Key := do
  let (name, span) ← spanned do
    match ← peek with
    | some '"' => basicString
    | some '\'' => literalString
    | _ =>
      let cs ← takeWhile isBareKeyChar
      if cs.isEmpty then fail else pure (String.ofList cs)
  return ⟨name, span⟩

/-- The parts of a key before the last one, and the last one. -/
def key : Reader (List Key × Key) := do
  let parts ← separated (do
    blanks
    let part ← keyPart
    blanks
    return part) '.'
  if depthLimit ≤ parts.length then fail
  match parts.getLast? with
  | some last => return (parts.dropLast, last)
  | none => fail

/-- The loop of `arrayItems`. -/
def arrayLoop (item : Reader Value) : Nat → Reader (List Value)
  | 0 => fail
  | fuel + 1 => do
    gap
    if ← skipIf [']'] then return []
    let v ← item
    gap
    if ← skipIf [','] then return v :: (← arrayLoop item fuel)
    word [']']
    return [v]

/-- The items of an array after its opening bracket. -/
def arrayItems (item : Reader Value) : Reader (List Value) := do
  arrayLoop item ((← rest).length + 1)

/-- An entry of a table between braces. -/
def inlineEntry (item : Reader Value) : Reader (List Key × Key × Value) := do
  let (path, last) ← key
  word ['=']
  blanks
  let v ← item
  blanks
  return (path, last, v)

/-- The entries of a table between braces after its opening brace. -/
def inlineEntries (item : Reader Value) : Reader (List (List Key × Key × Value)) := do
  blanks
  if ← skipIf ['\x7d'] then return []
  let entries ← separated (inlineEntry item) ','
  word ['\x7d']
  return entries

/-- The table of entries in order, if they do not clash. -/
def inlineTable (span : Span) (entries : List (List Key × Key × Value)) : Option Value := do
  let t ← entries.foldlM (fun (t : Value) e => t.insertDotted e.1 e.2.1 e.2.2) (.table .inline none [])
  match t with
  | .table origin _ es => some (.table origin (some span) es)
  | _ => none

/-- A value that holds no other values. -/
def scalar : Reader Value := do
  let start ← offset
  match ← peek with
  | none => fail
  | some c =>
    if c = '"' ∨ c = '\'' then
      let s ← string
      return .string ⟨start, ← offset⟩ s
    else if c = 't' then
      word ['t', 'r', 'u', 'e']
      return .boolean ⟨start, ← offset⟩ true
    else if c = 'f' then
      word ['f', 'a', 'l', 's', 'e']
      return .boolean ⟨start, ← offset⟩ false
    else if c = 'i' ∨ c = 'n' then specialFloat start
    else if c = '+' ∨ c = '-' ∨ c.isDigit then numberOrTime
    else fail

/-- A value in which arrays and tables may nest a number of levels. -/
def value : Nat → Reader Value
  | 0 => scalar
  | depth + 1 => do
    let start ← offset
    match ← peek with
    | some '[' =>
      let _ ← next
      let items ← arrayItems (value depth)
      return .array ⟨start, ← offset⟩ items
    | some '\x7b' =>
      let _ ← next
      let entries ← inlineEntries (value depth)
      match inlineTable ⟨start, ← offset⟩ entries with
      | some t => return t
      | none => fail
    | _ => scalar

/-- State of reading: the document so far and the keys of the last header. -/
structure State where
  root : Value := .emptyRoot
  header : List Key := []

/-- A header, and the line it stands on. -/
def header (s : State) : Reader State := do
  let start ← offset
  let isList ← skipIf ['[', '[']
  if !isList then word ['[']
  let (path, last) ← key
  word (if isList then [']', ']'] else [']'])
  let span : Span := ⟨start, ← offset⟩
  restOfLine
  let opened := if isList then s.root.openListTable path last span else s.root.openTable path last span
  match opened with
  | some root => return ⟨root, path ++ [last]⟩
  | none => fail

/-- An entry, and the line it ends on. -/
def entry (s : State) : Reader State := do
  let (path, last) ← key
  word ['=']
  blanks
  let v ← value (depthLimit - 1)
  restOfLine
  match s.root.addEntry s.header path last v with
  | some root => return { s with root := root }
  | none => fail

/-- Lines up to the end of the text. -/
def lines : Nat → State → Reader State
  | 0, _ => fail
  | fuel + 1, s => do
    blanks
    match ← peek with
    | none => return s
    | some c =>
      if c = '#' ∨ c = '\n' ∨ c = '\r' then
        restOfLine
        lines fuel s
      else if c = '[' then lines fuel (← header s)
      else lines fuel (← entry s)

/-- The document that a text writes, if it is well-formed. A byte order mark at the start is
skipped. -/
def parse? (text : String) : Option Value :=
  let read : Reader State := do
    let _ ← skipIf ['\uFEFF']
    lines (text.length + 1) {}
  (read.run ⟨0, text.toList⟩).map fun r => r.1.root

end Shakedown.Toml
