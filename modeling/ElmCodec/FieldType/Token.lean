/-
**Texts of types.**

| Text | Type |
|------|------|
| `[T]` | list of `T` |
| `{T}` | dictionary of `T` |
| the name of a record | that record |
| `Enums.Name` | enumeration `Name` |
| `bool`, `int`, `string`, `float`, `timestamp`, `value` | itself |

The rows are tried from the top, and blank characters around a type do not count, also inside
brackets. A text that fits no row is refused with the innermost text that fits none.

* `FieldType.parse` — the type of a text, given the names of the records.
-/

import ElmCodec.FieldType.Basic
import ElmCodec.Elm.Identifier
import ElmCodec.Schema.Error
import ElmCodec.Text.Blank

namespace ElmCodec.FieldType

open ElmCodec.Text

/-- What stands between an opening and a closing bracket that enclose the whole text. -/
def enclosed (opening closing : Char) : List Char → Option (List Char)
  | [] => none
  | first :: rest =>
    if first = opening ∧ rest.getLast? = some closing then some rest.dropLast else none

/-- What follows the given beginning of a text. -/
def afterStart : List Char → List Char → Option (List Char)
  | [], cs => some cs
  | _ :: _, [] => none
  | expected :: start, c :: cs => if c = expected then afterStart start cs else none

/-- How the text of an enumeration starts. -/
def enumerationStart : String := "Enums."

/-- The type of a text that is neither a list, a dictionary nor a record. -/
def parseName (token : List Char) : Except SchemaError FieldType :=
  match afterStart enumerationStart.toList token with
  | some name =>
    if Elm.isTypeName (String.ofList name) then .ok (.enumeration (String.ofList name))
    else .error (.unresolvedReference (String.ofList token))
  | none =>
    match String.ofList token with
    | "bool" => .ok .bool
    | "int" => .ok .int
    | "string" => .ok .string
    | "float" => .ok .float
    | "timestamp" => .ok .timestamp
    | "value" => .ok .value
    | other => .error (.unknownType other)

/-- The type of a text with at most `depth` brackets around one another. -/
def parseWithin (declares : String → Bool) : Nat → List Char → Except SchemaError FieldType
  | 0, token => parseName token
  | depth + 1, cs =>
    let token := trimChars cs
    match enclosed '[' ']' token with
    | some inner => (parseWithin declares depth inner).map list
    | none =>
      match enclosed '{' '}' token with
      | some inner => (parseWithin declares depth inner).map dict
      | none =>
        if declares (String.ofList token) then .ok (.record (String.ofList token))
        else parseName token

/-- The type of a text, given the names of the records. Every pair of brackets takes two
characters, so the length of the text bounds their number. -/
def parse (declares : String → Bool) (text : String) : Except SchemaError FieldType :=
  parseWithin declares (text.toList.length + 1) text.toList

end ElmCodec.FieldType
