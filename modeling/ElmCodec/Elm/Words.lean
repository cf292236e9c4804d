/-
**Names made from words.**

Keys and record names arrive in many conventions. They are cut into words of lower case letters at
the separators `_`, `.`, `-` and space, and where a capital follows a small letter or a digit;
names are made by joining the words again.

* `splitWords` — the words of a text.
* `camelCase` — the words joined, each but the first capitalised.
* `fieldName` — the record field of a key, clear of the reserved words.
* `displayName` — the type name of a record.
-/

import ElmCodec.Elm.Identifier
import ElmCodec.Text.LetterCase

namespace ElmCodec.Elm

open ElmCodec.Text

/-! ### Cutting a text into words -/

/-- The characters that stand between words and belong to none. -/
def isSeparator (c : Char) : Bool := c == '_' || c == '.' || c == '-' || c == ' '

/-- Whether a capital letter after this character starts a word. -/
def endsWord (c : Char) : Bool := isLower c || c.isDigit

/-- A word that has been read, unless it is empty. -/
def closeWord (word : List Char) : List (List Char) := if word.isEmpty then [] else [word]

/-- The words of a text that follows the beginning `word` of one; `mayEnd` tells whether a capital
letter would start the next word. -/
def wordsAfter (word : List Char) (mayEnd : Bool) : List Char → List (List Char)
  | [] => closeWord word
  | c :: rest =>
    if isSeparator c then closeWord word ++ wordsAfter [] false rest
    else if isUpper c && mayEnd then closeWord word ++ wordsAfter (lower c) (endsWord c) rest
    else wordsAfter (word ++ lower c) (endsWord c) rest

/-- The words of a text, in lower case. -/
def wordsOf (cs : List Char) : List (List Char) := wordsAfter [] false cs

/-- The words of a text, in lower case. -/
def splitWords (text : String) : List String := (wordsOf text.toList).map String.ofList

/-! ### The case of a first letter -/

/-- The text with its first character in upper case. -/
def capitalizeChars : List Char → List Char
  | [] => []
  | first :: rest => upper first ++ rest

/-- The text with its first character in lower case. -/
def lowerFirstChars : List Char → List Char
  | [] => []
  | first :: rest => lower first ++ rest

/-- The text with its first character in upper case. -/
def capitalize (text : String) : String := String.ofList (capitalizeChars text.toList)

/-- The text with its first character in lower case. -/
def lowerFirst (text : String) : String := String.ofList (lowerFirstChars text.toList)

/-! ### Joining words -/

/-- The words joined, each but the first capitalised. -/
def joinCamel : List (List Char) → List Char
  | [] => []
  | first :: rest => first ++ rest.flatMap capitalizeChars

/-- The words of a text joined, each but the first capitalised. -/
def camelCase (text : String) : String := String.ofList (joinCamel (wordsOf text.toList))

/-- The record field of a key: its camel case, but `eventType` for the key `type`, and with a
trailing underscore where that is a reserved word. -/
def fieldName (key : String) : String :=
  if key = "type" then "eventType"
  else
    let name := camelCase key
    if name ∈ reservedWords then name ++ "_" else name

/-- The type name of a record. The segments of a dotted name are capitalised and joined; a name
without a point stays as it is. -/
def displayName (name : String) : String :=
  if '.' ∈ name.toList then String.join ((segments name).map capitalize) else name

end ElmCodec.Elm
