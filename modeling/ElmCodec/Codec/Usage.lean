/-
**What a generated module uses of its imports.**

Every rendering notes what it uses here; the list of imports is read off the total.

* `Usage.merge` — the use of two pieces of code together.
* `FieldType.noteUse` — the use of a type.
-/

import ElmCodec.FieldType.Basic

namespace ElmCodec

/-- The names of other modules that a piece of code uses. -/
structure Usage where
  /-- `Dict` in a type. -/
  dict : Bool := false
  /-- `opField` in a decoder. -/
  opField : Bool := false
  /-- `opFieldWithDefault` in a decoder. -/
  opFieldWithDefault : Bool := false
  /-- `maybeObject` in an encoder. -/
  maybeObject : Bool := false
  /-- The type of timestamps, its encoder or its decoder. -/
  timestamp : Bool := false
  /-- Anything of the module of enumerations. -/
  enums : Bool := false
  /-- The greatest number of decoders that one decoder combines. -/
  arity : Nat := 0
  deriving DecidableEq, Repr

namespace Usage

/-- The use of two pieces of code together. -/
def merge (first second : Usage) : Usage where
  dict := first.dict || second.dict
  opField := first.opField || second.opField
  opFieldWithDefault := first.opFieldWithDefault || second.opFieldWithDefault
  maybeObject := first.maybeObject || second.maybeObject
  timestamp := first.timestamp || second.timestamp
  enums := first.enums || second.enums
  arity := max first.arity second.arity

/-- The greatest number of decoders that the standard module combines. -/
def builtinArity : Nat := 8

/-- Whether a decoder combines more decoders than the standard module can. -/
def needsExtendedArity (usage : Usage) : Bool := usage.arity > builtinArity

/-- The names that the module of decoding helpers has to expose. -/
def decodeExposing (usage : Usage) : List String :=
  (if usage.opField then ["opField"] else []) ++
    (if usage.opFieldWithDefault then ["opFieldWithDefault"] else [])

end Usage

/-- Adds the use of a type. -/
def FieldType.noteUse (usage : Usage) : FieldType → Usage
  | timestamp => { usage with timestamp := true }
  | enumeration _ => { usage with enums := true }
  | list element => element.noteUse usage
  | dict element => element.noteUse { usage with dict := true }
  | bool | int | string | float | value | record _ => usage

end ElmCodec
