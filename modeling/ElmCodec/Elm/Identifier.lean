/-
**Identifiers of Elm.**

A name of a type, of a constructor or of a segment of a module name starts with a capital letter; a
name of a record field, of a function or of a bound variable starts with a small one. Letters and
digits are ASCII here, a narrower rule than the language's own, so that a generated module is read
alike everywhere.

* `isTypeName`, `isValueName` — the two kinds of identifier.
* `isModuleName` — type names joined by points.
* `reservedWords` — the words that no field may have as its name.
-/

namespace ElmCodec.Elm

/-- The characters after the first one of an identifier. -/
def isNameChar (c : Char) : Bool := c.isAlphanum || c == '_'

/-- A first character of one kind, then name characters. -/
def isNameFrom (start : Char → Bool) : List Char → Bool
  | [] => false
  | first :: rest => start first && rest.all isNameChar

/-- Whether a text is a capitalised identifier. -/
def isTypeName (name : String) : Bool := isNameFrom Char.isUpper name.toList

/-- Whether a text is an identifier that starts with a small letter. -/
def isValueName (name : String) : Bool := isNameFrom Char.isLower name.toList

/-- The segments of a dotted name. -/
def segments (name : String) : List String := (name.toList.splitOn '.').map String.ofList

/-- Whether a text is a dotted module name such as `Internal.Tools.Timestamp`. -/
def isModuleName (name : String) : Bool := (segments name).all isTypeName

/-- The words of the language that are no names. -/
def reservedWords : List String :=
  ["if", "then", "else", "case", "of", "let", "in", "type", "module", "where", "import",
    "exposing", "as", "port", "alias", "infix"]

end ElmCodec.Elm
