/-
**Why a schema or a module is refused.**

Each cause is a constructor that carries the names to report. A cause belongs to one of three
kinds, and the kind decides how the message starts; whatever is wrong with the shape of a document
is of the first kind.

* `ErrorKind` — the kinds, with their names and numbers.
* `SchemaError` — the causes.
* `SchemaError.message` — the text of an error.
-/

namespace ElmCodec

/-- The kinds of error that a report tells apart. -/
inductive ErrorKind where
  | malformed
  | unknownType
  | unresolvedReference
  deriving DecidableEq, Repr

namespace ErrorKind

/-- The name of a kind in a report. -/
def name : ErrorKind → String
  | malformed => "schema_structure"
  | unknownType => "unknown_type"
  | unresolvedReference => "unresolved_reference"

/-- The number of a kind in a report. -/
def code : ErrorKind → Nat
  | malformed => 1
  | unknownType => 2
  | unresolvedReference => 3

/-- The message of an error of a kind with a detail. -/
def message (kind : ErrorKind) (detail : String) : String :=
  match kind with
  | malformed => "schema structure error: " ++ detail
  | unknownType => "unknown type `" ++ detail ++ "`"
  | unresolvedReference => "unresolved reference `" ++ detail ++ "`"

end ErrorKind

/-- The causes for which a schema document, a declaration or a module is refused. -/
inductive SchemaError where
  /-- The document is no YAML, or not of the shape of a schema. -/
  | unreadableDocument
  | versionNotText
  | blankDefault (key : String)
  | unfitDefault (key : String)
  | unknownPresence (key word : String)
  | blankName
  | blankVersion
  | noRecords
  | delimiterInName
  | delimiterInDescription (record : String)
  | notATypeName (record : String)
  | sameTypeName (record typeName : String)
  | unknownType (token : String)
  | unresolvedReference (token : String)
  | notAFieldName (key : String)
  | sameFieldName (record previous key field : String)
  | notAModuleName (name : String)
  | notAnImport (key name : String)
  deriving DecidableEq, Repr

namespace SchemaError

/-- The kind of a cause. -/
def kind : SchemaError → ErrorKind
  | unknownType _ => .unknownType
  | unresolvedReference _ => .unresolvedReference
  | _ => .malformed

/-- The rule about comment delimiters, for the text that breaks it. -/
def delimiterDetail (place : String) : String :=
  place ++ " cannot contain the Elm comment delimiters `\x7b-` or `-\x7d`"

/-- What a message says after the words for its kind. -/
def detail : SchemaError → String
  | unreadableDocument => "<yaml>"
  | versionNotText => "version must be a string"
  | blankDefault key => "field `" ++ key ++ "`: default cannot be an empty expression"
  | unfitDefault key =>
    "field `" ++ key ++ "`: default must be a boolean, number or Elm expression string"
  | unknownPresence key word =>
    "field `" ++ key ++ "`: required must be true, false, \"now\" or \"never\", got \"" ++ word ++
      "\""
  | blankName => "name cannot be empty"
  | blankVersion => "version cannot be empty"
  | noRecords => "objects must declare at least one record"
  | delimiterInName => delimiterDetail "name"
  | delimiterInDescription record => delimiterDetail ("record `" ++ record ++ "`: description")
  | notATypeName record => "record `" ++ record ++ "` does not form a valid Elm type name"
  | sameTypeName record typeName =>
    "record `" ++ record ++ "` collides with another record named `" ++ typeName ++ "`"
  | unknownType token => token
  | unresolvedReference token => token
  | notAFieldName key => "field `" ++ key ++ "` does not form a valid Elm field name"
  | sameFieldName record previous key field =>
    "record `" ++ record ++ "`: fields `" ++ previous ++ "` and `" ++ key ++
      "` both map to Elm field `" ++ field ++ "`"
  | notAModuleName name => "module name `" ++ name ++ "` is not a valid Elm module name"
  | notAnImport key name =>
    "imports." ++ key ++ " `" ++ name ++ "` is not a valid Elm module name"

/-- The text of an error. -/
def message (error : SchemaError) : String := error.kind.message error.detail

end SchemaError

end ElmCodec
