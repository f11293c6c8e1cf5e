import Shakedown.Yaml.Document
import Shakedown.Yaml.Problem

/-!
# Decoding documents

Decoders by shape: texts, truth values, numbers, options, sequences, text mappings, records and
variants. A decoder reads a node at a trail. References are followed as they are met, and a document
is refused once it has been followed a hundred times as often as it has nodes.

A record ignores fields that it does not know, and an empty plain scalar is an empty collection.
-/

namespace Shakedown.Yaml

/-- Decoding: a document at hand, a count of followed references, and failure with a problem. -/
abbrev DecodeM := ReaderT Document (StateT Nat (Except Problem))

/-- A decoder of one shape. -/
abbrev Decoder (α : Type) := Trail → Node → DecodeM α

namespace Decode

/-- Decoding fails, at no place yet. -/
def fail {α : Type} (cause : Cause) : DecodeM α := throw ⟨cause, none⟩

/-- Problems without a place get one. -/
def located {α : Type} (trail : Trail) (mark : Mark) (x : DecodeM α) : DecodeM α :=
  fun d n => (x d n).mapError fun p => p.locate trail mark

/-- The node that a reference stands for; other nodes stand for themselves. -/
def resolve (n : Node) : DecodeM Node := do
  match n with
  | .reference _ anchor =>
    let d ← read
    let count := (← get) + 1
    set count
    if ((d.root.map Node.size).getD 1) * 100 < count then fail .tooManyRepetitions
    else pure ((d.target? anchor).getD n)
  | _ => pure n

/-- What a scalar is, for a message; a core tag that does not fit the text is the problem itself. -/
def describeScalar (tag : Option Tag) (style : ScalarStyle) (text : String) : Except Cause Found :=
  let ofValue : ScalarValue → Found := fun
    | .null => .unit
    | .bool b => .bool b
    | .int n => .int n
    | .float x => .float x
    | .text s => .text s
  let unfit := fun wanted => Except.error (Cause.wrongValue (.text text) wanted)
  match tag.map tagClass with
  | some .bool => match truth? text with
    | some b => .ok (.bool b)
    | none => unfit "a boolean"
  | some .int => match integer? text with
    | some n => .ok (.int n)
    | none => unfit "an integer"
  | some .float => match float? text with
    | some x => .ok (.float x)
    | none => unfit "a float"
  | some .null => if isNullWord text then .ok .unit else unfit "null"
  | some .other => .ok (.text text)
  | _ => .ok (if style = .plain then ofValue (plainValue text) else .text text)

/-- A node is not of the wanted type. -/
def wrongType {α : Type} (n : Node) (wanted : String) : DecodeM α :=
  match n with
  | .scalar _ tag style text =>
    match describeScalar tag style text with
    | .ok found => fail (.wrongType found wanted)
    | .error cause => fail cause
  | .sequence .. => fail (.wrongType .sequence wanted)
  | .mapping .. => fail (.wrongType .mapping wanted)
  | .reference .. => fail .tooManyRepetitions

/-- The source text of any scalar. -/
def textAs (wanted : String) : Decoder String := fun trail n => do
  let n ← resolve n
  located trail n.mark do
    match n with
    | .scalar _ _ _ text => pure text
    | _ => wrongType n wanted

/-- A text. -/
def text : Decoder String := textAs "a string"

/-- Whether a scalar may be read as a value of a core type: plain, or literal with that type's
tag. -/
def isTypedScalar (core : TagClass) (tag : Option Tag) (style : ScalarStyle) : Bool :=
  style = .plain || (style = .literal && tag.map tagClass == some core)

/-- A truth value. -/
def bool : Decoder Bool := fun trail n => do
  let n ← resolve n
  located trail n.mark do
    match n with
    | .scalar _ tag style s =>
      match (if isTypedScalar .bool tag style then truth? s else none) with
      | some b => pure b
      | none => wrongType n "a boolean"
    | _ => wrongType n "a boolean"

/-- A number of 64 bits without a sign. -/
def nat64 : Decoder Nat := fun trail n => do
  let n ← resolve n
  located trail n.mark do
    match n with
    | .scalar _ tag style s =>
      match (if isTypedScalar .int tag style then (natural? s).filter (· < Nat.pow 2 64) else none) with
      | some k => pure k
      | none => wrongType n "u64"
    | _ => wrongType n "u64"

/-- A value, or none for a null or empty plain scalar. A null tag on any other text is a problem of
the enclosing record. -/
def option {α : Type} (d : Decoder α) : Decoder (Option α) := fun trail n => do
  let n ← resolve n
  match n with
  | .scalar _ tag .plain s =>
    match tag.map tagClass with
    | some .null => if isNullWord s then pure none else fail (.wrongValue (.text s) "null")
    | some _ => some <$> d trail n
    | none => if s.isEmpty || isNullWord s then pure none else some <$> d trail n
  | _ => some <$> d trail n

/-- Whether a node is an empty plain scalar. -/
def isEmptyScalar : Node → Bool
  | .scalar _ _ .plain "" => true
  | _ => false

/-- The items of a sequence from a position on. -/
def itemsFrom {α : Type} (d : Decoder α) (trail : Trail) : Nat → List Node → DecodeM (List α)
  | _, [] => pure []
  | index, n :: rest => do
    let item ← d (.item index :: trail) n
    return item :: (← itemsFrom d trail (index + 1) rest)

/-- A sequence. -/
def list {α : Type} (d : Decoder α) : Decoder (List α) := fun trail n => do
  let n ← resolve n
  located trail n.mark do
    match n with
    | .sequence _ _ items => itemsFrom d trail 0 items
    | _ => if isEmptyScalar n then pure [] else wrongType n "a sequence"

/-- The trail to the value of a key. -/
def valueTrail (trail : Trail) (key : Node) : Trail :=
  match key with
  | .scalar _ _ _ s => .key s :: trail
  | _ => .unknown :: trail

/-- The entries of a mapping folded in order, the keys read as texts. -/
def foldEntries {σ : Type} (wanted : String) (trail : Trail) (step : σ → String → Trail → Node → DecodeM σ) :
    σ → List (Node × Node) → DecodeM σ
  | s, [] => pure s
  | s, (k, v) :: rest => do
    let key ← textAs wanted trail k
    let s ← step s key (valueTrail trail k) v
    foldEntries wanted trail step s rest

/-- A record: its fields are folded into a state, of which `finish` makes the value. -/
def record {σ α : Type} (name : String) (start : σ) (step : σ → String → Trail → Node → DecodeM σ)
    (finish : σ → DecodeM α) : Decoder α := fun trail n => do
  let n ← resolve n
  located trail n.mark do
    match n with
    | .mapping _ _ entries => foldEntries "field identifier" trail step start entries >>= finish
    | _ => if isEmptyScalar n then finish start else wrongType n ("struct " ++ name)

/-- A field that has not been given before. -/
def once {α : Type} (field : String) (seen : Option α) (x : DecodeM α) : DecodeM (Option α) :=
  match seen with
  | some _ => fail (.duplicateField field)
  | none => some <$> x

/-- A field that must have been given. -/
def required {α : Type} (field : String) (given : Option α) : DecodeM α :=
  match given with
  | some a => pure a
  | none => fail (.missingField field)

/-- A mapping from texts to texts, sorted by key; of equal keys the last counts. -/
def textMapping {σ : Type} (start : σ) (insert : String → String → σ → σ) : Decoder σ := fun trail n => do
  let n ← resolve n
  located trail n.mark do
    match n with
    | .mapping _ _ entries =>
      foldEntries "a string" trail (fun s key trail v => do return insert key (← text trail v) s) start entries
    | _ => if isEmptyScalar n then pure start else wrongType n "a map"

/-- One variant of a choice: its name, and the decoder of its content or, without content, its
value. -/
inductive Variant (α : Type) where
  | unit (name : String) (value : α)
  | content (name : String) (decoder : Decoder α)

/-- The name of a variant. -/
def Variant.name {α : Type} : Variant α → String
  | .unit name _ | .content name _ => name

/-- The variant of a name. -/
def findVariant {α : Type} (variants : List (Variant α)) (name : String) : DecodeM (Variant α) :=
  match variants.find? fun v => v.name == name with
  | some v => pure v
  | none => fail (.unknownVariant name (variants.map Variant.name))

/-- A choice: the name of a variant without content, or a mapping from the name of a variant to its
content as the only entry. -/
def choice {α : Type} (name : String) (variants : List (Variant α)) : Decoder α := fun trail n => do
  let n ← resolve n
  located trail n.mark do
    let single := Cause.wrongValue .mapping "map with a single key"
    match n with
    | .mapping _ tag entries =>
      -- A node with the tag of a variant is of another kind.
      if tag.map tagClass == some .variant then fail (.wrongType .tagged ("enum " ++ name))
      match entries with
      | [] => fail single
      | (k, v) :: rest =>
        let key ← textAs "variant identifier" trail k
        -- A fault of the name is told where the name stands, which is where a reference leads to.
        let resolved ← match k with
          | .reference _ anchor => pure (((← read).target? anchor).getD k)
          | _ => pure k
        match ← located trail resolved.mark (findVariant variants key) with
        | .unit .. => fail (.wrongType .mapping "unit variant")
        | .content _ d =>
          -- The value is read before further entries are complained of.
          let value ← d (valueTrail trail k) v
          if rest.isEmpty then pure value else fail single
    | .scalar _ tag style s =>
      if tag.map tagClass == some .variant then fail (.wrongType .tagged ("enum " ++ name))
      match describeScalar tag style s with
      | .ok (.text s) =>
        match ← findVariant variants s with
        | .unit _ value => pure value
        | .content .. => fail (.wrongType .unitVariant "newtype variant")
      | .ok found => fail (.wrongType found ("enum " ++ name))
      | .error cause => fail cause
    | .sequence _ tag _ =>
      if tag.map tagClass == some .variant then fail (.wrongType .tagged ("enum " ++ name))
      wrongType n ("enum " ++ name)
    | .reference .. => wrongType n ("enum " ++ name)

end Decode

/-- The value that a document decodes to. An empty stream is an empty scalar at its end. -/
def decode {α : Type} (d : Decoder α) (doc : Document) : Except Problem α :=
  let root := doc.root.getD (.scalar doc.stop none .plain "")
  ((d [] root doc).run 0).map (·.1)

end Shakedown.Yaml
