import Shakedown.Text.Utf8
import Shakedown.Yaml.Cursor

/-!
# Tokens

The tokens of a YAML text, each with the positions of its start and end.
-/

namespace Shakedown.Yaml

/-- How a scalar is written. -/
inductive ScalarStyle where
  | plain
  | singleQuoted
  | doubleQuoted
  | literal
  | folded
deriving DecidableEq, Repr

/-- A tag, as bytes: percent escapes may write what is no text. -/
abbrev Tag := List UInt8

/-- The bytes of a tag that count: those before the first null byte. -/
def Tag.upToNull (t : Tag) : Tag := t.takeWhile (· != 0)

/-- Whether a tag starts with `!`. -/
def Tag.isLocal (t : Tag) : Bool := t.head? == some 33

/-- The tag of a core type. -/
def coreTag (name : String) : Tag := Text.Utf8.encode ("tag:yaml.org,2002:" ++ name)

/-- Kinds of token, with what they carry. -/
inductive TokenKind where
  | versionDirective (major minor : Nat)
  | tagDirective (handle : String) (target : Tag)
  | documentStart
  | documentEnd
  | blockSequenceStart
  | blockMappingStart
  | blockEnd
  | flowSequenceStart
  | flowSequenceEnd
  | flowMappingStart
  | flowMappingEnd
  | blockEntry
  | flowEntry
  | key
  | value
  | reference (name : String)
  | anchor (name : String)
  | tag (handle : String) (suffix : Tag)
  | scalar (text : String) (style : ScalarStyle)
  | streamEnd
deriving DecidableEq, Repr

/-- A token. -/
structure Token where
  kind : TokenKind
  start : Mark
  stop : Mark
deriving DecidableEq, Repr

end Shakedown.Yaml
