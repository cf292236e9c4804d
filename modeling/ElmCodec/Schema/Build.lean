/-
**Building a schema from declarations.**

Every rule that a schema has to keep is checked here, in a fixed order: the texts of the header,
the number of records, the texts of comments, the names of the types, and last the types of all
fields.

* `Schema.build` — the schema of declarations, with the records that need a type of their own
  marked.
-/

import ElmCodec.Schema.Basic
import ElmCodec.FieldType.Token
import ElmCodec.Elm.Words

namespace ElmCodec

open ElmCodec.Text

/-- Whether a text has a given part. -/
def hasPart (part : List Char) : List Char → Bool
  | [] => part.isEmpty
  | c :: rest => part.isPrefixOf (c :: rest) || hasPart part rest

/-- Whether a text would open or close a comment. -/
def hasCommentDelimiter (text : String) : Bool :=
  hasPart ['-', '}'] text.toList || hasPart ['{', '-'] text.toList

namespace Schema

/-- Refuses with an error unless a condition holds. -/
def require (condition : Bool) (error : SchemaError) : Except SchemaError Unit :=
  if condition then .ok () else .error error

/-- The names of the types, each an identifier and unlike those before it. -/
def checkTypeNames (earlier : List String) : List String → Except SchemaError Unit
  | [] => .ok ()
  | record :: rest =>
    let typeName := Elm.displayName record
    if !Elm.isTypeName typeName then .error (.notATypeName record)
    else if typeName ∈ earlier then .error (.sameTypeName record typeName)
    else checkTypeNames (typeName :: earlier) rest

/-- The types of fields, in their order. -/
def fieldTypes (declares : String → Bool) (decl : RecordDecl) :
    Except SchemaError (List FieldType) :=
  decl.fields.values.mapM fun field => FieldType.parse declares field.typeText

/-- The entry of a record, marked when its declaration asks for it or one of its fields mentions
the record. -/
def markEntry (declares : String → Bool) (entry : String × RecordDecl) :
    Except SchemaError (String × Bool) := do
  let types ← fieldTypes declares entry.2
  return (entry.1, entry.2.breaksRecursion || types.any (·.mentions entry.1))

/-- The schema of a name, a version and declarations. -/
def build (name version : String) (records : OrderedMap String RecordDecl) :
    Except SchemaError Schema := do
  require (!isBlankText name) .blankName
  require (!isBlankText version) .blankVersion
  require (!records.isEmpty) .noRecords
  require (!hasCommentDelimiter name) .delimiterInName
  records.entries.forM fun entry =>
    require (!hasCommentDelimiter entry.2.description) (.delimiterInDescription entry.1)
  checkTypeNames [] records.keys
  let marks ← records.entries.mapM (markEntry records.contains)
  let marked := records.mapEntries fun name decl =>
    { decl with selfReferencing := decl.selfReferencing || marks.contains (name, true) }
  return { name, version, records := marked }

end Schema

end ElmCodec
