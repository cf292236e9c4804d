/-
**Nodes of a YAML document.**

A node is a scalar, a sequence, a mapping or an alias. An alias holds the number of an anchor, and
the document holds the node that each number stands for; a node may therefore contain itself.

* `Node.size` — the number of events by which a node is announced: one for a scalar or an alias,
  two for the ends of a collection.
* `Document.target?` — the node that an alias stands for.
-/

import ElmCodec.Yaml.Token

namespace ElmCodec.Yaml

/-- A node. Its tag is the whole one, its handle resolved. -/
inductive Node where
  | scalar (tag : Option String) (style : Style) (text : String)
  | sequence (tag : Option String) (items : List Node)
  | mapping (tag : Option String) (entries : List (Node × Node))
  | reference (anchor : Nat)
  deriving Inhabited

namespace Node

mutual

/-- The number of events of a node. -/
def size : Node → Nat
  | scalar .. | reference _ => 1
  | sequence _ items => 2 + sizeItems items
  | mapping _ entries => 2 + sizeEntries entries

/-- The number of events of the items of a sequence. -/
def sizeItems : List Node → Nat
  | [] => 0
  | item :: rest => item.size + sizeItems rest

/-- The number of events of the entries of a mapping. -/
def sizeEntries : List (Node × Node) → Nat
  | [] => 0
  | (key, value) :: rest => key.size + value.size + sizeEntries rest

end

end Node

/-- A document. -/
structure Document where
  root : Node
  /-- The nodes that the numbers of anchors stand for. -/
  targets : List (Nat × Node)

/-- The node that an alias stands for. -/
def Document.target? (document : Document) (anchor : Nat) : Option Node :=
  document.targets.lookup anchor

end ElmCodec.Yaml
