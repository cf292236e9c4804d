/-
**Fields of a record in Elm.**

A field takes one line in each of the three pieces of its record:

| Presence | type | encoder | decoder |
|---|---|---|---|
| required | `T` | `Just <| enc data.f` | `D.field "k" dec` |
| optional, with default | `T` | `Just <| enc data.f` | `opFieldWithDefault "k" DEFAULT dec` |
| optional | `Maybe T` | `Maybe.map enc data.f` | `opField "k" dec` |
| now | `Maybe T` | `Maybe.map enc data.f` | `D.map Just <| D.field "k" dec` |
| never | `Maybe T` | `Nothing` | `D.succeed Nothing` |

An optional JSON value without default is encoded as `data.f` alone, for it has the type that the
encoder wants already.

* `Field.resolve` — the field of a declaration.
* `Field.annotation`, `Field.encoder`, `Field.decoder` — the three texts.
-/

import ElmCodec.Codec.Usage
import ElmCodec.FieldType.Elm

namespace ElmCodec

/-- A field with its Elm name and its type. -/
structure Field where
  key : String
  name : String
  type : FieldType
  presence : Presence
  deriving DecidableEq

namespace Field

/-- The field of a declaration. The key has to give an Elm name. -/
def resolve (schema : Schema) (key : String) (decl : FieldDecl) : Except SchemaError Field :=
  let name := Elm.fieldName key
  if Elm.isValueName name then
    (schema.parseType decl.typeText).map fun type =>
      { key, name, type, presence := decl.presence }
  else .error (.notAFieldName key)

/-- Whether the record field may be empty. -/
def isMaybe (field : Field) : Bool :=
  match field.presence with
  | .required => false
  | .now | .never => true
  | .optional default => default.isNone

/-- The Elm type of the record field. -/
def annotation (field : Field) : String :=
  if field.isMaybe then "Maybe " ++ Elm.argument field.type.elmName else field.type.elmName

/-- The record field, read from the value being encoded. -/
def access (field : Field) : String := "data." ++ field.name

/-- The expression for the field in the encoder's list of keys. -/
def encoder (field : Field) : String :=
  let whole := "Just <| " ++ field.type.encoder ++ " " ++ field.access
  let mapped := "Maybe.map " ++ Elm.argument field.type.encoder ++ " " ++ field.access
  match field.presence with
  | .never => "Nothing"
  | .now => mapped
  | .required => whole
  | .optional (some _) => whole
  | .optional none => if field.type.isValue then field.access else mapped

/-- The decoder of the field, short of the decoder of its type. Nothing is decoded of a field that
is never there. -/
def lookup? (field : Field) : Option String :=
  let key := Elm.stringLiteral field.key
  match field.presence with
  | .never => none
  | .now => some ("D.map Just <| D.field " ++ key)
  | .required => some ("D.field " ++ key)
  | .optional none => some ("opField " ++ key)
  | .optional (some default) =>
    some ("opFieldWithDefault " ++ key ++ " " ++ Elm.argument default.toElm)

/-- The decoder of the field. -/
def decoder (schema : Schema) (field : Field) : Except SchemaError String :=
  match field.lookup? with
  | none => .ok "D.succeed Nothing"
  | some lookup =>
    (field.type.decoder schema).map fun inner => lookup ++ " " ++ Elm.argument inner

/-- Adds the use of a field. -/
def noteUse (usage : Usage) (field : Field) : Usage :=
  let usage := field.type.noteUse usage
  match field.presence with
  | .optional none => { usage with opField := true }
  | .optional (some _) => { usage with opFieldWithDefault := true }
  | .required | .now | .never => usage

end Field

end ElmCodec
