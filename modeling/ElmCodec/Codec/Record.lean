/-
**Records in Elm: type, encoder and decoder.**

For a record `Point` with the required fields `x` and `y`:

```elm
type alias Point =
    { x : Int
    , y : Int
    }


encodePoint : Point -> E.Value
encodePoint data =
    maybeObject
        [ ( "x", Just <| E.int data.x )
        , ( "y", Just <| E.int data.y )
        ]


pointDecoder : D.Decoder Point
pointDecoder =
    D.map2
        (\a b ->
            { x = a, y = b }
        )
        (D.field "x" D.int)
        (D.field "y" D.int)
```

A record that mentions itself has a type of its own with one constructor, since an alias would
expand without end; the encoder takes the constructor off and the decoder puts it on.

* `Record.resolve` — the record of a declaration.
* `Record.typeDefinition`, `Record.encoder`, `Record.decoder` — the three pieces.
* `Record.render` — the pieces, two blank lines apart.
-/

import ElmCodec.Codec.Field

namespace ElmCodec

/-- A record with its fields, in the order of their keys. -/
structure Record where
  name : String
  typeName : String
  description : String
  selfReferencing : Bool
  fields : List Field
  deriving DecidableEq

namespace Record

/-- The fields of declarations, no two of one name; `earlier` are those already resolved. -/
def resolveFields (schema : Schema) (record : String) (earlier : List Field) :
    List (String × FieldDecl) → Except SchemaError (List Field)
  | [] => .ok []
  | (key, decl) :: rest => do
    let field ← Field.resolve schema key decl
    match earlier.find? (·.name == field.name) with
    | some previous => .error (.sameFieldName record previous.key key field.name)
    | none => return field :: (← resolveFields schema record (field :: earlier) rest)

/-- The record of a declaration. -/
def resolve (schema : Schema) (name : String) (decl : RecordDecl) : Except SchemaError Record :=
  (resolveFields schema name [] decl.fields.entries).map fun fields =>
    { name, typeName := Elm.displayName name, description := Text.trim decl.description
      selfReferencing := decl.selfReferencing, fields }

/-- The name of the encoder. -/
def encoderName (record : Record) : String := ElmCodec.encoderName record.typeName

/-- The name of the decoder. -/
def decoderName (record : Record) : String := ElmCodec.decoderName record.typeName

/-- The type in the list of what the module exposes, with its constructor if it has one. -/
def exposedType (record : Record) : String :=
  if record.selfReferencing then record.typeName ++ "(..)" else record.typeName

/-- The number of fields. -/
def arity (record : Record) : Nat := record.fields.length

/-- Lines of a list, each after an indent, the first led by a bracket and the others by a comma. -/
def leadLines (indent opening : String) : List String → List String
  | [] => []
  | first :: rest =>
    (indent ++ opening ++ " " ++ first) :: rest.map fun line => indent ++ ", " ++ line

/-- Lines as a text, each with its end. -/
def unlines (lines : List String) : String := String.join (lines.map (· ++ "\n"))

/-! ### The type -/

/-- The doc comment of the type, if there is a description. -/
def docComment (record : Record) : String :=
  if record.description.isEmpty then "" else "\x7b-| " ++ record.description ++ "\n-\x7d\n"

/-- The lines of the type. -/
def typeLines (record : Record) : List String :=
  let fieldLines := record.fields.map fun field => field.name ++ " : " ++ field.annotation
  if record.selfReferencing then
    ("type " ++ record.typeName) ::
      (if record.fields.isEmpty then ["    = " ++ record.typeName ++ " \x7b\x7d"]
      else
        ("    = " ++ record.typeName) :: leadLines "        " "\x7b" fieldLines ++
          ["        \x7d"])
  else
    ("type alias " ++ record.typeName ++ " =") ::
      (if record.fields.isEmpty then ["    \x7b\x7d"]
      else leadLines "    " "\x7b" fieldLines ++ ["    \x7d"])

/-- The type, after its doc comment. -/
def typeDefinition (record : Record) : String := record.docComment ++ unlines record.typeLines

/-! ### The encoder -/

/-- The pattern of the value to encode. -/
def pattern (record : Record) : String :=
  if record.selfReferencing then "(" ++ record.typeName ++ " data)" else "data"

/-- The lines of the encoder. -/
def encoderLines (record : Record) : List String :=
  [record.encoderName ++ " : " ++ record.typeName ++ " -> E.Value",
    record.encoderName ++ " " ++ record.pattern ++ " ="] ++
  if record.fields.isEmpty then ["    maybeObject []"]
  else
    "    maybeObject" ::
      leadLines "        " "[" (record.fields.map fun field =>
        "( " ++ Elm.stringLiteral field.key ++ ", " ++ field.encoder ++ " )") ++ ["        ]"]

/-- The encoder. -/
def encoder (record : Record) : String := unlines record.encoderLines

/-! ### The decoder -/

/-- A value of the record from one expression for each field. -/
def construct (record : Record) (values : List String) : String :=
  let literal :=
    if record.fields.isEmpty then "\x7b\x7d"
    else
      "\x7b " ++ String.intercalate ", " (record.fields.zipWith
        (fun field value => field.name ++ " = " ++ value) values) ++ " \x7d"
  if record.selfReferencing then record.typeName ++ " " ++ literal else literal

/-- The function that combines a number of decoders. -/
def combinator (arity : Nat) : String := if arity = 1 then "D.map" else "D.map" ++ toString arity

/-- The variables for the decoded fields. -/
def binders (record : Record) : List String := (List.range record.arity).map Elm.binder

/-- The lines of the decoder after the first two, given the decoders of the fields. -/
def decoderBody (record : Record) (fieldDecoders : List String) : List String :=
  if record.fields.isEmpty then ["    D.succeed " ++ Elm.argument (record.construct [])]
  else
    ["    " ++ combinator record.arity,
      "        (\\" ++ String.intercalate " " record.binders ++ " ->",
      "            " ++ record.construct record.binders,
      "        )"] ++
    fieldDecoders.map fun decoder => "        " ++ Elm.argument decoder

/-- The lines of the decoder. -/
def decoderLines (schema : Schema) (record : Record) : Except SchemaError (List String) :=
  (record.fields.mapM (Field.decoder schema)).map fun fieldDecoders =>
    [record.decoderName ++ " : D.Decoder " ++ record.typeName, record.decoderName ++ " ="] ++
      record.decoderBody fieldDecoders

/-- The decoder. -/
def decoder (schema : Schema) (record : Record) : Except SchemaError String :=
  (record.decoderLines schema).map unlines

/-! ### All together -/

/-- The type, the encoder and the decoder, two blank lines apart. -/
def render (schema : Schema) (record : Record) : Except SchemaError String :=
  (record.decoder schema).map fun decoder =>
    String.intercalate "\n\n" [record.typeDefinition, record.encoder, decoder]

/-- Adds the use of a record. -/
def noteUse (usage : Usage) (record : Record) : Usage :=
  record.fields.foldl Field.noteUse
    { usage with maybeObject := true, arity := max usage.arity record.arity }

end Record

end ElmCodec
