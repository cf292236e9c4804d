/-
**Types of fields in Elm.**

A type has three texts: the name of the Elm type, an encoder from it to JSON and a decoder from JSON
to it. A type inside another one is one argument there.

* `FieldType.elmName`, `FieldType.encoder`, `FieldType.decoder` — the three texts.

A record that has a type of its own is decoded lazily, since its decoder may refer to itself while
the values of the module are being set up.
-/

import ElmCodec.FieldType.Token
import ElmCodec.Schema.Basic
import ElmCodec.Elm.Words
import ElmCodec.Elm.Expression

namespace ElmCodec

/-- The encoder of the record with a type name. -/
def encoderName (typeName : String) : String := "encode" ++ typeName

/-- The decoder of the record with a type name. -/
def decoderName (typeName : String) : String := Elm.lowerFirst typeName ++ "Decoder"

namespace FieldType

/-- The name of the Elm type. -/
def elmName : FieldType → String
  | bool => "Bool"
  | int => "Int"
  | string => "String"
  | float => "Float"
  | timestamp => "Timestamp"
  | value => "E.Value"
  | enumeration name => enumerationStart ++ name
  | record name => Elm.displayName name
  | list element => "List " ++ Elm.argument element.elmName
  | dict element => "Dict String " ++ Elm.argument element.elmName

/-- The encoder, an expression of a function to JSON values. -/
def encoder : FieldType → String
  | bool => "E.bool"
  | int => "E.int"
  | string => "E.string"
  | float => "E.float"
  | timestamp => "encodeTimestamp"
  | value => "identity"
  | enumeration name => enumerationStart ++ encoderName name
  | record name => encoderName (Elm.displayName name)
  | list element => "E.list " ++ Elm.argument element.encoder
  | dict element => "E.dict identity " ++ Elm.argument element.encoder

/-- The decoder of a record, lazy if the record has a type of its own. -/
def recordDecoder (name : String) (decl : RecordDecl) : String :=
  let decoder := decoderName (Elm.displayName name)
  if decl.selfReferencing then "D.lazy (\\_ -> " ++ decoder ++ ")" else decoder

/-- The decoder. A record that the schema lacks has none. -/
def decoder (schema : Schema) : FieldType → Except SchemaError String
  | bool => .ok "D.bool"
  | int => .ok "D.int"
  | string => .ok "D.string"
  | float => .ok "D.float"
  | timestamp => .ok "timestampDecoder"
  | value => .ok "D.value"
  | enumeration name => .ok (enumerationStart ++ decoderName name)
  | record name =>
    match schema.records.get? name with
    | some decl => .ok (recordDecoder name decl)
    | none => .error (.unresolvedReference name)
  | list element => (element.decoder schema).map fun inner => "D.list " ++ Elm.argument inner
  | dict element => (element.decoder schema).map fun inner => "D.dict " ++ Elm.argument inner

end FieldType

/-- The type of a text in a schema. -/
def Schema.parseType (schema : Schema) (text : String) : Except SchemaError FieldType :=
  FieldType.parse schema.declares text

end ElmCodec
