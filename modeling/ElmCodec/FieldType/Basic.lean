/-
**Types of fields.**

* `FieldType.mentions` — whether a record occurs in a type, at any depth.
-/

namespace ElmCodec

/-- The type of a field. -/
inductive FieldType where
  | bool
  | int
  | string
  | float
  | timestamp
  /-- Any JSON value, left as it is. -/
  | value
  /-- A type of the module of enumerations. -/
  | enumeration (name : String)
  /-- A record of the same schema, by its name there. -/
  | record (name : String)
  | list (element : FieldType)
  /-- A dictionary with text keys. -/
  | dict (element : FieldType)
  deriving DecidableEq, Repr

namespace FieldType

/-- Whether a record occurs in a type, alone or inside lists and dictionaries. -/
def mentions (name : String) : FieldType → Bool
  | record other => other == name
  | list element | dict element => element.mentions name
  | _ => false

/-- Whether a type is that of any JSON value. -/
def isValue : FieldType → Bool
  | value => true
  | _ => false

end FieldType

end ElmCodec
