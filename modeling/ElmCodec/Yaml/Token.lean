/-
**Tokens of a YAML stream.**

A stream is cut into tokens before its structure is read. Indentation has become tokens of its own:
a block collection starts and ends with one, and a key is announced before it.
-/

namespace ElmCodec.Yaml

/-- How a scalar is written, as far as its meaning depends on it. -/
inductive Style where
  /-- Without quotes. -/
  | plain
  /-- As a block that keeps its lines. -/
  | literal
  /-- In quotes, or as a block that folds its lines. -/
  | quoted
  deriving DecidableEq, Repr

/-- A token. -/
inductive Token where
  | version (major minor : Nat)
  | tagHandle (handle start : String)
  | documentStart
  | documentEnd
  | blockSequenceStart
  | blockMappingStart
  | blockEnd
  | flowSequenceStart
  | flowSequenceEnd
  | flowMappingStart
  | flowMappingEnd
  | blockEntry
  | flowEntry
  | key
  | value
  | reference (name : String)
  | anchor (name : String)
  | tag (handle rest : String)
  | scalar (style : Style) (text : String)
  deriving DecidableEq, Repr

end ElmCodec.Yaml
