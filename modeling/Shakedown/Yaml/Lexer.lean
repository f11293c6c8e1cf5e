import Shakedown.Yaml.Scalar
import Shakedown.Text.Utf8

/-!
# Lexing

From a text to its tokens. Indentation opens and closes blocks; a key of a mapping is recognised by
the `:` after it, so the place of a possible key is remembered until the `:` comes or until it
cannot come any more: on another line, or after more than 1024 characters.
-/

namespace Shakedown.Yaml

/-- A place where a key may have started: its token number and position, and whether the indentation
forces it to be one. -/
structure KeyPlace where
  required : Bool
  number : Nat
  mark : Mark
deriving Repr

/-- State of the lexer: the cursor, the tokens so far, the open indentations, the depth of brackets
with the possible key of each level, and whether a key may start here. -/
structure Lexer where
  cursor : Cursor
  tokens : Array Token
  indent : Int
  indents : List Int
  flow : Nat
  keys : List (Option KeyPlace)
  keyAllowed : Bool
deriving Repr

namespace Lexer

/-- The lexer at the start of a text. -/
def start (s : String) : Lexer := ⟨.ofString s, #[], -1, [], 0, [none], true⟩

/-- A token is appended. -/
def push (l : Lexer) (kind : TokenKind) (start stop : Mark) : Lexer :=
  { l with tokens := l.tokens.push ⟨kind, start, stop⟩ }

/-- A token is put in front of the token with a given number. -/
def insert (l : Lexer) (number : Nat) (kind : TokenKind) (mark : Mark) : Lexer :=
  { l with tokens := (l.tokens.toList.insertIdx number ⟨kind, mark, mark⟩).toArray }

/-- A token of `n` characters is appended and read. -/
def pushChars (l : Lexer) (kind : TokenKind) (n : Nat) : Lexer :=
  let after := l.cursor.skipN n
  { l.push kind l.cursor.mark after.mark with cursor := after }

/-- Whether the lexer is outside brackets. -/
def inBlock (l : Lexer) : Bool := l.flow == 0

/-- The column of the cursor. -/
def column (l : Lexer) : Int := l.cursor.mark.column

/-! ## Possible keys -/

/-- Places too far back for a key are forgotten; one that had to be a key is a fault. -/
def forgetStaleKeys (l : Lexer) : Except Malformed Lexer := do
  let here := l.cursor.mark
  let stale := fun (k : KeyPlace) => k.mark.line < here.line || k.mark.index + 1024 < here.index
  if l.keys.any fun k => k.any fun k => stale k && k.required then throw here
  return { l with keys := l.keys.map fun k => k.filter fun k => !stale k }

/-- The possible key of the current level is given up. -/
def dropKey (l : Lexer) : Except Malformed Lexer :=
  match l.keys with
  | some k :: rest => if k.required then .error l.cursor.mark else .ok { l with keys := none :: rest }
  | _ => .ok l

/-- The place of the cursor is remembered as a possible key, if a key may start here. -/
def saveKey (l : Lexer) : Except Malformed Lexer := do
  if !l.keyAllowed then return l
  let required := l.inBlock && l.indent == l.column
  let place : KeyPlace := ⟨required, l.tokens.size, l.cursor.mark⟩
  let l ← l.dropKey
  return { l with keys := some place :: l.keys.drop 1 }

/-! ## Indentation -/

/-- A block opens if its column is deeper than the current one; its token goes to the given place,
or to the end. -/
def openBlock (l : Lexer) (column : Nat) (number : Option Nat) (kind : TokenKind) (mark : Mark) : Lexer :=
  if l.inBlock && l.indent < column then
    let l := { l with indents := l.indent :: l.indents, indent := column }
    match number with
    | some n => l.insert n kind mark
    | none => l.push kind mark mark
  else l

/-- The blocks deeper than a column end, at most `fuel` of them. -/
def closeBlocksFrom (column : Int) : Nat → Lexer → Lexer
  | 0, l => l
  | fuel + 1, l =>
    if column < l.indent then
      let l := l.push .blockEnd l.cursor.mark l.cursor.mark
      closeBlocksFrom column fuel { l with indent := l.indents.headD (-1), indents := l.indents.drop 1 }
    else l

/-- The blocks deeper than a column end; inside brackets there are none. -/
def closeBlocks (l : Lexer) (column : Int) : Lexer :=
  if l.inBlock then closeBlocksFrom column (l.indents.length + 1) l else l

/-! ## Between tokens -/

/-- Blanks, comments and line breaks before the next token are skipped. A break outside brackets
allows a key. -/
def skipGap : Nat → Lexer → Lexer
  | 0, l => l
  | fuel + 1, l =>
    let c := l.cursor
    let c := if c.mark.column == 0 && c.sees '\uFEFF' then c.skip else c
    let tabs := !l.inBlock || !l.keyAllowed
    let c := c.dropWhile fun x => x == ' ' || (tabs && x == '\t')
    let c := if c.sees '#' then c.skipToBreak else c
    if c.atBreak then
      skipGap fuel { l with cursor := c.skipLine, keyAllowed := l.keyAllowed || l.inBlock }
    else { l with cursor := c }

/-! ## Directives, anchors and tags -/

/-- A number of at most nine digits. -/
def versionNumber (c : Cursor) : Except Malformed (Nat × Cursor) :=
  let ds := c.takeWhile Char.isDigit
  if ds.isEmpty || 9 < ds.length then .error c.mark
  else .ok (ds.foldl (fun n d => n * 10 + (d.toNat - 48)) 0, c.skipN ds.length)

/-- A tag handle; a directive's handle ends in `!`. -/
def tagHandle (directive : Bool) (c : Cursor) : Except Malformed (List Char × Cursor) :=
  if c.sees '!' then
    let word := c.skip.takeWhile isWordChar
    let after := c.skip.skipN word.length
    if after.sees '!' then .ok ('!' :: word ++ ['!'], after.skip)
    else if directive && !word.isEmpty then .error after.mark
    else .ok ('!' :: word, after)
  else .error c.mark

/-- Characters of a tag that stand for themselves; some only where the tag is delimited. -/
def isTagChar (delimited : Bool) (c : Char) : Bool :=
  isWordChar c || ";/?:@&=+$.!~*'()".toList.contains c || (delimited && ",[]".toList.contains c)

/-- The byte of a percent escape. -/
def percentByte? (c : Cursor) : Option UInt8 :=
  match c.rest with
  | '%' :: a :: b :: _ => (hexNumber? 2 [a, b]).map Nat.toUInt8
  | _ => none

/-- The number of bytes that follow the first byte of an escaped character. -/
def escapedTail? (b : UInt8) : Option Nat :=
  if b < 0x80 then some 0
  else if b < 0xC0 then none
  else if b < 0xE0 then some 1
  else if b < 0xF0 then some 2
  else if b < 0xF8 then some 3
  else none

/-- The bytes of `n` percent escapes, each of which continues a character. -/
def escapedTails : Nat → Cursor → Option Tag
  | 0, _ => some []
  | n + 1, c => do
    let b ← percentByte? c
    if !Text.Utf8.isTail b then none
    return b :: (← escapedTails n (c.skipN 3))

/-- The bytes of a percent-escaped character. -/
def escaped? (c : Cursor) : Option Tag := do
  let b ← percentByte? c
  return b :: (← escapedTails (← escapedTail? b) (c.skipN 3))

/-- The bytes of a tag, onto reversed ones. -/
def tagBytes (delimited : Bool) : Nat → Tag → Cursor → Except Malformed (Tag × Cursor)
  | 0, _, c => .error c.mark
  | fuel + 1, rev, c =>
    match c.peek with
    | some x =>
      if x == '%' then
        match escaped? c with
        | some bytes => tagBytes delimited fuel (bytes.reverse ++ rev) (c.skipN (3 * bytes.length))
        | none => .error c.mark
      else if isTagChar delimited x then tagBytes delimited fuel (x.toNat.toUInt8 :: rev) c.skip
      else .ok (rev.reverse, c)
    | none => .ok (rev.reverse, c)

/-- A tag after an opening part of it; the whole must not be empty. -/
def tagRest (delimited : Bool) (opening : List Char) (c : Cursor) : Except Malformed (Tag × Cursor) := do
  let (bytes, after) ← tagBytes delimited (c.size + 1) [] c
  if opening.isEmpty && bytes.isEmpty then throw c.mark
  return ((opening.drop 1).map (·.toNat.toUInt8) ++ bytes, after)

/-- A directive line. -/
def directive (l : Lexer) : Except Malformed Lexer := do
  let c := l.cursor.skip
  let name := c.takeWhile isWordChar
  let c := c.skipN name.length
  if name.isEmpty || !c.gapAt 0 then throw c.mark
  let (kind, c) ← match String.ofList name with
    | "YAML" => do
      let (major, c) ← versionNumber (c.dropWhile isBlank)
      if !c.sees '.' then throw c.mark
      let (minor, c) ← versionNumber c.skip
      pure (TokenKind.versionDirective major minor, c)
    | "TAG" => do
      let (handle, c) ← tagHandle true (c.dropWhile isBlank)
      if !c.atBlank then throw c.mark
      let (target, c) ← tagRest true [] (c.dropWhile isBlank)
      if !c.gapAt 0 then throw c.mark
      pure (TokenKind.tagDirective (String.ofList handle) target, c)
    | _ => throw c.mark
  let l := l.push kind l.cursor.mark c.mark
  let c := c.dropWhile isBlank
  let c := if c.sees '#' then c.skipToBreak else c
  if !(c.atEnd || c.atBreak) then throw c.mark
  return { l with cursor := c.skipLine }

/-- An anchor, or a reference to one. -/
def anchorName (l : Lexer) (kind : String → TokenKind) : Except Malformed Lexer :=
  let c := l.cursor.skip
  let name := c.takeWhile isWordChar
  let after := c.skipN name.length
  if name.isEmpty || !(after.gapAt 0 || after.peek.any fun x => "?:,]\x7d%@`".toList.contains x) then .error after.mark
  else .ok { l.push (kind (String.ofList name)) l.cursor.mark after.mark with cursor := after }

/-- A tag: verbatim between angle brackets, or a handle and a suffix. -/
def tag (l : Lexer) : Except Malformed Lexer := do
  let c := l.cursor
  let (handle, suffix, after) ←
    if c.peekAt 1 == some '<' then do
      let (bytes, after) ← tagRest true [] (c.skipN 2)
      if !after.sees '>' then throw after.mark
      pure ([], bytes, after.skip)
    else do
      let (handle, after) ← tagHandle false c
      if 1 < handle.length && handle.getLast? == some '!' then do
        let (bytes, after) ← tagRest false [] after
        pure (handle, bytes, after)
      else do
        let (bytes, after) ← tagRest false handle after
        pure (if bytes.upToNull.isEmpty then ([], Text.Utf8.encode "!", after) else (['!'], bytes, after))
  if (l.inBlock || !after.sees ',') && !after.gapAt 0 then throw after.mark
  return { l.push (.tag (String.ofList handle) suffix) c.mark after.mark with cursor := after }

/-! ## Tokens -/

/-- The tokens at the end of a text. -/
def finish (l : Lexer) : Except Malformed Lexer := do
  let m := l.cursor.mark
  let m := if m.column == 0 then m else ⟨m.index, m.line + 1, 0⟩
  let l := { l with cursor := { l.cursor with rest := [], mark := m } }
  let l ← (l.closeBlocks (-1)).dropKey
  return { l with keyAllowed := false }.push .streamEnd m m

/-- A marker of a document's start or end. -/
def marker (l : Lexer) (kind : TokenKind) : Except Malformed Lexer := do
  let l ← (l.closeBlocks (-1)).dropKey
  return { l with keyAllowed := false }.pushChars kind 3

/-- An opening bracket. -/
def openFlow (l : Lexer) (kind : TokenKind) : Except Malformed Lexer := do
  let l ← l.saveKey
  return { l with keys := none :: l.keys, flow := l.flow + 1, keyAllowed := true }.pushChars kind 1

/-- A closing bracket. -/
def closeFlow (l : Lexer) (kind : TokenKind) : Except Malformed Lexer := do
  let l ← l.dropKey
  let l := if l.inBlock then l else { l with keys := l.keys.drop 1, flow := l.flow - 1 }
  return { l with keyAllowed := false }.pushChars kind 1

/-- A comma inside brackets. -/
def flowEntry (l : Lexer) : Except Malformed Lexer := do
  let l ← l.dropKey
  return { l with keyAllowed := true }.pushChars .flowEntry 1

/-- A hyphen before an item. -/
def blockEntry (l : Lexer) : Except Malformed Lexer := do
  if l.inBlock && !l.keyAllowed then throw l.cursor.mark
  let l ← (l.openBlock l.cursor.mark.column none .blockSequenceStart l.cursor.mark).dropKey
  return { l with keyAllowed := true }.pushChars .blockEntry 1

/-- A question mark before a key. -/
def explicitKey (l : Lexer) : Except Malformed Lexer := do
  if l.inBlock && !l.keyAllowed then throw l.cursor.mark
  let l ← (l.openBlock l.cursor.mark.column none .blockMappingStart l.cursor.mark).dropKey
  return { l with keyAllowed := l.inBlock }.pushChars .key 1

/-- A colon before a value; the possible key of the level becomes one. -/
def valueMark (l : Lexer) : Except Malformed Lexer := do
  match l.keys with
  | some k :: rest =>
    let l := l.insert k.number .key k.mark
    let l := l.openBlock k.mark.column (some k.number) .blockMappingStart k.mark
    return { l with keys := none :: rest, keyAllowed := false }.pushChars .value 1
  | _ =>
    if l.inBlock && !l.keyAllowed then throw l.cursor.mark
    let l := l.openBlock l.cursor.mark.column none .blockMappingStart l.cursor.mark
    return { l with keyAllowed := l.inBlock }.pushChars .value 1

/-- A block scalar. -/
def blockScalarToken (l : Lexer) (folded : Bool) : Except Malformed Lexer := do
  let l ← l.dropKey
  let (text, after) ← blockScalar folded l.indent l.cursor
  let l := l.push (.scalar text (if folded then .folded else .literal)) l.cursor.mark after.mark
  return { l with cursor := after, keyAllowed := true }

/-- A quoted scalar. -/
def quotedToken (l : Lexer) (double : Bool) : Except Malformed Lexer := do
  let l ← l.saveKey
  let (text, after) ← quotedScalar double l.cursor
  let l := l.push (.scalar text (if double then .doubleQuoted else .singleQuoted)) l.cursor.mark after.mark
  return { l with cursor := after, keyAllowed := false }

/-- A plain scalar. -/
def plainToken (l : Lexer) : Except Malformed Lexer := do
  let l ← l.saveKey
  let s ← plainScalar (!l.inBlock) (l.indent + 1) l.cursor
  let l := l.push (.scalar s.text .plain) l.cursor.mark s.stop
  return { l with cursor := s.cursor, keyAllowed := s.broken }

/-- Whether a plain scalar may start with a character. -/
def startsPlain (l : Lexer) (x : Char) : Bool :=
  if x == '-' then !l.cursor.skip.atBlank
  else if x == '?' || x == ':' then l.inBlock && !l.cursor.gapAt 1
  else !(isBlank x || isBreak x || ",[]\x7b\x7d#&*!|>'\"%@`".toList.contains x)

/-- The token at the cursor. -/
def token (l : Lexer) : Except Malformed Lexer :=
  let c := l.cursor
  match c.peek with
  | none => l.finish
  | some x =>
    -- An indicator of a block counts only with a gap after it.
    let spaced := c.gapAt 1
    if x == '%' && c.mark.column == 0 then do directive { ← (l.closeBlocks (-1)).dropKey with keyAllowed := false }
    else if c.atMarker '-' then l.marker .documentStart
    else if c.atMarker '.' then l.marker .documentEnd
    else if x == '[' then l.openFlow .flowSequenceStart
    else if x == '\x7b' then l.openFlow .flowMappingStart
    else if x == ']' then l.closeFlow .flowSequenceEnd
    else if x == '\x7d' then l.closeFlow .flowMappingEnd
    else if x == ',' then l.flowEntry
    else if x == '-' && spaced then l.blockEntry
    else if x == '?' && (spaced || !l.inBlock) then l.explicitKey
    else if x == ':' && (spaced || !l.inBlock) then l.valueMark
    else if x == '*' then do anchorName { ← l.saveKey with keyAllowed := false } .reference
    else if x == '&' then do anchorName { ← l.saveKey with keyAllowed := false } .anchor
    else if x == '!' then do tag { ← l.saveKey with keyAllowed := false }
    else if x == '|' && l.inBlock then l.blockScalarToken false
    else if x == '>' && l.inBlock then l.blockScalarToken true
    else if x == '\'' then l.quotedToken false
    else if x == '"' then l.quotedToken true
    else if l.startsPlain x then l.plainToken
    else .error c.mark

/-- The tokens from a state on, at most `fuel` of them read. -/
def run : Nat → Lexer → Except Malformed (List Token)
  | 0, l => .error l.cursor.mark
  | fuel + 1, l =>
    let l := l.skipGap (l.cursor.size + 1)
    match l.forgetStaleKeys with
    | .error m => .error m
    | .ok l =>
      -- A token further to the left ends the blocks that are indented more.
      let l := l.closeBlocks l.column
      let ended := l.cursor.atEnd
      match l.token with
      | .error m => .error m
      | .ok l => if ended then .ok l.tokens.toList else run fuel l

end Lexer

/-- The tokens of a text. -/
def tokens (s : String) : Except Malformed (List Token) :=
  match s.toList.find? fun c => !isAllowed c with
  | some _ => .error .zero
  | none => (Lexer.start s).run (s.length + 2)

end Shakedown.Yaml
