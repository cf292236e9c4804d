/-
**Schemas: the records of one generated module.**

A schema has a name and a version, which the module's header repeats, and records by name. A record
has fields by wire key; a field has the text of its type and says when it is present.

Records and fields are in the order of their names.
-/

import ElmCodec.OrderedMap

namespace ElmCodec

/-- The value of an absent field, as the Elm expression that stands for it. -/
inductive Default where
  | bool (value : Bool)
  | number (text : String)
  /-- Taken over as it is written. -/
  | expression (text : String)
  deriving DecidableEq, Repr

/-- The Elm expression of a default. -/
def Default.toElm : Default → String
  | bool true => "True"
  | bool false => "False"
  | number text => text
  | expression text => text

/-- When a field is present. -/
inductive Presence where
  /-- Always. -/
  | required
  /-- In everything that is decoded, though a value made by hand may lack it. -/
  | now
  /-- Not at all, neither in a value nor on the wire. -/
  | never
  /-- Sometimes; a default may stand in for it. -/
  | optional (default : Option Default)
  deriving DecidableEq, Repr

/-- A field as it is declared: its type is still a text. -/
structure FieldDecl where
  typeText : String
  presence : Presence
  deriving DecidableEq

/-- A record as it is declared. -/
structure RecordDecl where
  description : String
  fields : OrderedMap String FieldDecl
  /-- Whether the declaration asks for a type of its own instead of an alias. -/
  breaksRecursion : Bool
  /-- Whether the record is known to need a type of its own. `Schema.build` finds this out. -/
  selfReferencing : Bool := false
  deriving DecidableEq

/-- A schema. -/
structure Schema where
  name : String
  version : String
  records : OrderedMap String RecordDecl
  deriving DecidableEq

/-- Whether a schema has a record of a name. -/
def Schema.declares (schema : Schema) (name : String) : Bool := schema.records.contains name

end ElmCodec
