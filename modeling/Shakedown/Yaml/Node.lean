import Shakedown.Yaml.Token

/-!
# Nodes and documents

The tree of a YAML document. A reference stays in the tree as a node of its own, with the number of
the anchor that it names; a document says which node each number stands for.
-/

namespace Shakedown.Yaml

/-- A node, with the position of its first character. -/
inductive Node where
  | scalar (mark : Mark) (tag : Option Tag) (style : ScalarStyle) (text : String)
  | sequence (mark : Mark) (tag : Option Tag) (items : List Node)
  | mapping (mark : Mark) (tag : Option Tag) (entries : List (Node × Node))
  | reference (mark : Mark) (anchor : Nat)
deriving Repr, Inhabited

/-- The position of a node. -/
def Node.mark : Node → Mark
  | .scalar m .. | .sequence m .. | .mapping m .. | .reference m _ => m

mutual
/-- The size of a node: one for a scalar and a reference, and two for the ends of a collection. -/
def Node.size : Node → Nat
  | .scalar .. | .reference .. => 1
  | .sequence _ _ items => 2 + sizeOfItems items
  | .mapping _ _ entries => 2 + sizeOfEntries entries

/-- The size of the items of a sequence. -/
def sizeOfItems : List Node → Nat
  | [] => 0
  | n :: rest => n.size + sizeOfItems rest

/-- The size of the entries of a mapping. -/
def sizeOfEntries : List (Node × Node) → Nat
  | [] => 0
  | (k, v) :: rest => k.size + v.size + sizeOfEntries rest
end

/-- A document: its root, none for an empty stream, the position of the stream's end, and the nodes
that anchors stand for. -/
structure Document where
  root : Option Node
  stop : Mark
  targets : List (Nat × Node)
deriving Repr

/-- The node that an anchor stands for. -/
def Document.target? (d : Document) (anchor : Nat) : Option Node :=
  (d.targets.find? fun t => t.1 == anchor).map (·.2)

end Shakedown.Yaml
