import Shakedown.Yaml.Node
import Shakedown.Yaml.Lexer

/-!
# Reading documents

From tokens to the document that they form. `Document.ofString` reads a text that holds one
document or none.

An anchor gets the number of the names seen before it. A name that is used again therefore shares
its number with the next new name, and of the nodes of one number the one that starts last is the
target.
-/

namespace Shakedown.Yaml

/-- State of reading: the tokens left, the tag handles, the numbers of the anchor names, the count
of nodes started, and the targets with the count at which each started. -/
structure Reader where
  tokens : List Token
  handles : List (String × Tag)
  anchors : List (String × Nat)
  started : Nat
  targets : List (Nat × Nat × Node)

/-- Reading, which fails at a position. -/
abbrev Read := StateT Reader (Except Malformed)

namespace Read

/-- A token past the end of the stream. -/
def endToken : Token := ⟨.streamEnd, .zero, .zero⟩

/-- The next token. -/
def peek : Read Token := do return (← get).tokens.headD endToken

/-- The next token is read. -/
def skip : Read Unit := modify fun r => { r with tokens := r.tokens.drop 1 }

/-- Reading fails at the next token. -/
def fail {α : Type} : Read α := do throw (← peek).start

/-- Whether the next token is of one of some kinds. -/
def sees (kinds : List TokenKind) : Read Bool := do return kinds.contains (← peek).kind

/-- An empty plain scalar at a position. -/
def emptyAt (mark : Mark) : Node := .scalar mark none .plain ""

/-- The number of a new anchor with a name; later references to the name get it. -/
def defineAnchor (name : String) : Read Nat := do
  let r ← get
  let number := r.anchors.length
  let others := r.anchors.filter fun a => a.1 != name
  set { r with anchors := others ++ [(name, number)] }
  return number

/-- A node becomes the target of an anchor unless one that started later is it already. -/
def recordTarget (number start : Nat) (node : Node) : Read Unit :=
  modify fun r =>
    match r.targets.find? fun t => t.1 == number with
    | some (_, other, _) =>
      if start < other then r
      else { r with targets := (number, start, node) :: r.targets.filter fun t => t.1 != number }
    | none => { r with targets := (number, start, node) :: r.targets }

/-- The tag that a handle and suffix write. -/
def resolveTag (mark : Mark) (handle : String) (suffix : Tag) : Read Tag := do
  if handle.isEmpty then return suffix.upToNull
  match (← get).handles.find? fun h => h.1 == handle with
  | some (_, target) => return target.upToNull ++ suffix.upToNull
  | none => throw mark

/-- Anchor and tag in front of a node. -/
structure Properties where
  anchor : Option (Nat × Nat) := none
  tag : Option Tag := none
  start : Option Mark := none
  stop : Mark := .zero

/-- An anchor at the cursor, if there is one. -/
def anchor? (p : Properties) : Read Properties := do
  let t ← peek
  match t.kind with
  | .anchor name =>
    skip
    modify fun r => { r with started := r.started + 1 }
    let start := (← get).started
    return { p with anchor := some (← defineAnchor name, start), start := some (p.start.getD t.start), stop := t.stop }
  | _ => return p

/-- A tag at the cursor, if there is one. -/
def tag? (p : Properties) : Read Properties := do
  let t ← peek
  match t.kind with
  | .tag handle suffix =>
    skip
    return { p with tag := some (← resolveTag t.start handle suffix), start := some (p.start.getD t.start), stop := t.stop }
  | _ => return p

/-- Anchor and tag in either order. -/
def properties : Read Properties := do
  if (← peek).kind matches .tag .. then anchor? (← tag? {}) else tag? (← anchor? {})

mutual
/-- A node. `block` allows block collections, `indentless` a sequence at its key's indentation. -/
def node (block indentless : Bool) : Nat → Read Node
  | 0 => fail
  | fuel + 1 => do
    let t ← peek
    match t.kind with
    | .reference name =>
      skip
      match (← get).anchors.find? fun a => a.1 == name with
      | some (_, number) => return .reference t.start number
      | none => throw t.start
    | _ =>
      let p ← properties
      let n ← content block indentless p fuel
      match p.anchor with
      | some (number, start) => recordTarget number start n
      | none => pure ()
      return n

/-- What follows the properties of a node. -/
def content (block indentless : Bool) (p : Properties) : Nat → Read Node
  | 0 => fail
  | fuel + 1 => do
    let t ← peek
    let mark := p.start.getD t.start
    match t.kind with
    | .scalar text style =>
      skip
      return .scalar mark p.tag style text
    | .flowSequenceStart =>
      skip
      return .sequence mark p.tag (← flowItems true fuel)
    | .flowMappingStart =>
      skip
      return .mapping mark p.tag (← flowEntries true fuel)
    | kind =>
      -- A sequence under a key may stand at the column of the key.
      if indentless && kind == .blockEntry then return .sequence mark p.tag (← indentlessItems fuel)
      else if block && kind == .blockSequenceStart then
        skip
        return .sequence mark p.tag (← blockItems fuel)
      else if block && kind == .blockMappingStart then
        skip
        return .mapping mark p.tag (← blockEntries fuel)
      -- A node may consist of its properties alone: it is then an empty scalar.
      else if p.start.isSome then return .scalar mark p.tag .plain ""
      else fail

/-- The items of a block sequence. -/
def blockItems : Nat → Read (List Node)
  | 0 => fail
  | fuel + 1 => do
    let t ← peek
    match t.kind with
    | .blockEntry =>
      skip
      let item ← if ← sees [.blockEntry, .blockEnd] then pure (emptyAt t.stop) else node true false fuel
      return item :: (← blockItems fuel)
    | .blockEnd =>
      skip
      return []
    | _ => fail

/-- The items of a sequence at the indentation of its key. -/
def indentlessItems : Nat → Read (List Node)
  | 0 => fail
  | fuel + 1 => do
    let t ← peek
    match t.kind with
    | .blockEntry =>
      skip
      let item ←
        if ← sees [.blockEntry, .key, .value, .blockEnd] then pure (emptyAt t.stop) else node true false fuel
      return item :: (← indentlessItems fuel)
    | _ => return []

/-- The entries of a block mapping. -/
def blockEntries : Nat → Read (List (Node × Node))
  | 0 => fail
  | fuel + 1 => do
    let t ← peek
    match t.kind with
    | .key =>
      skip
      let key ← if ← sees [.key, .value, .blockEnd] then pure (emptyAt t.stop) else node true true fuel
      let v ← peek
      let value ← match v.kind with
        | .value => do
          skip
          if ← sees [.key, .value, .blockEnd] then pure (emptyAt v.stop) else node true true fuel
        | _ => pure (emptyAt v.start)
      return (key, value) :: (← blockEntries fuel)
    | .blockEnd =>
      skip
      return []
    | _ => fail

/-- The items of a sequence in brackets; a pair is a mapping with one entry. -/
def flowItems (first : Bool) : Nat → Read (List Node)
  | 0 => fail
  | fuel + 1 => do
    if ← sees [.flowSequenceEnd] then
      skip
      return []
    if !first then
      if ← sees [.flowEntry] then skip else fail
    let t ← peek
    match t.kind with
    | .key =>
      skip
      let pair ← flowPair fuel
      return .mapping t.start none [pair] :: (← flowItems false fuel)
    | .flowSequenceEnd =>
      skip
      return []
    | _ =>
      let item ← node false false fuel
      return item :: (← flowItems false fuel)

/-- A pair inside a sequence in brackets, after its key mark. A key mark with nothing to follow
takes the next token with it. -/
def flowPair : Nat → Read (Node × Node)
  | 0 => fail
  | fuel + 1 => do
    let t ← peek
    let key ←
      if ← sees [.value, .flowEntry, .flowSequenceEnd] then do
        skip
        pure (emptyAt t.stop)
      else node false false fuel
    let value ←
      if ← sees [.value] then do
        skip
        if ← sees [.flowEntry, .flowSequenceEnd] then pure (emptyAt (← peek).start) else node false false fuel
      else pure (emptyAt (← peek).start)
    return (key, value)

/-- The entries of a mapping in brackets. -/
def flowEntries (first : Bool) : Nat → Read (List (Node × Node))
  | 0 => fail
  | fuel + 1 => do
    if ← sees [.flowMappingEnd] then
      skip
      return []
    if !first then
      if ← sees [.flowEntry] then skip else fail
    let t ← peek
    match t.kind with
    | .key =>
      skip
      let key ←
        if ← sees [.value, .flowEntry, .flowMappingEnd] then pure (emptyAt (← peek).start) else node false false fuel
      let value ←
        if ← sees [.value] then do
          skip
          if ← sees [.flowEntry, .flowMappingEnd] then pure (emptyAt (← peek).start) else node false false fuel
        else pure (emptyAt (← peek).start)
      return (key, value) :: (← flowEntries false fuel)
    | .flowMappingEnd =>
      skip
      return []
    | _ =>
      let key ← node false false fuel
      let value := emptyAt (← peek).start
      return (key, value) :: (← flowEntries false fuel)
end

/-- The directives in front of a document. -/
def directives (version : Bool) : Nat → Read Bool
  | 0 => fail
  | fuel + 1 => do
    let t ← peek
    match t.kind with
    | .versionDirective major minor =>
      -- A document has one version at most, and it is one of the two that there are.
      if version || major != 1 || (minor != 1 && minor != 2) then throw t.start
      skip
      let _ ← directives true fuel
      return true
    | .tagDirective handle target =>
      let r ← get
      if r.handles.any fun h => h.1 == handle then throw t.start
      set { r with handles := r.handles ++ [(handle, target)] }
      skip
      let _ ← directives version fuel
      return true
    | _ => return false

/-- The one document of a stream, or none. -/
def document (fuel : Nat) : Read (Option Node) := do
  let rec skipEnds : Nat → Read Unit
    | 0 => fail
    | n + 1 => do if ← sees [.documentEnd] then skip *> skipEnds n else pure ()
  let directed ← directives false fuel
  -- The handles that every document has give way to those that it defines itself.
  modify fun r => { r with handles := r.handles ++
    ([("!", Text.Utf8.encode "!"), ("!!", coreTag "")].filter fun d => r.handles.all fun h => h.1 != d.1) }
  let t ← peek
  let root ← match t.kind with
    | .documentStart => do
      skip
      let c ← peek
      match c.kind with
      | .versionDirective .. | .tagDirective .. | .documentStart | .documentEnd | .streamEnd =>
        pure (some (emptyAt c.start))
      | _ => some <$> node true false fuel
    | .streamEnd => if directed then fail else pure none
    | _ => if directed then fail else some <$> node true false fuel
  if root.isSome then
    skipEnds fuel
    if !(← sees [.streamEnd]) then fail
  return root

end Read

/-- The document that a text holds. -/
def Document.ofString (s : String) : Except Malformed Document := do
  let ts ← tokens s
  let stop := ((ts.getLast?).getD Read.endToken).start
  let fuel := 3 * ts.length + 8
  let (root, r) ← (Read.document fuel).run ⟨ts, [], [], 0, []⟩
  return ⟨root, stop, r.targets.map fun t => (t.1, t.2.2)⟩

end Shakedown.Yaml
