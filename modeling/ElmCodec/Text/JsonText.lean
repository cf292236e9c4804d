/-
**JSON as a text over several lines.**

Every item of an array and every entry of an object has a line of its own, two spaces further in
than its brackets.

* `JsonValue.pretty` — the text of a value.
-/

namespace ElmCodec

/-- A JSON value, as far as reports need it. -/
inductive JsonValue where
  | bool (value : Bool)
  | number (value : Nat)
  | string (text : String)
  | array (items : List JsonValue)
  | object (entries : List (String × JsonValue))

namespace JsonValue

/-- The hexadecimal digit of a number below sixteen. -/
def hexDigit (digit : Nat) : Char := (Nat.toDigits 16 digit).headD '0'

/-- A character inside a string. -/
def stringChar (c : Char) : List Char :=
  if c = '"' then ['\\', '"']
  else if c = '\\' then ['\\', '\\']
  else if c = '\n' then ['\\', 'n']
  else if c = '\r' then ['\\', 'r']
  else if c = '\t' then ['\\', 't']
  else if c.toNat = 8 then ['\\', 'b']
  else if c.toNat = 12 then ['\\', 'f']
  else if c.toNat < 32 then
    ['\\', 'u', '0', '0', hexDigit (c.toNat / 16), hexDigit (c.toNat % 16)]
  else [c]

/-- A text as a JSON string. -/
def quote (text : String) : String :=
  String.ofList ('"' :: text.toList.flatMap stringChar ++ ['"'])

/-- A line break and the spaces in front of the next line. -/
def newLine (depth : Nat) : String := "\n" ++ String.ofList (List.replicate (2 * depth) ' ')

/-- Lines between brackets, with commas. -/
def enclose (depth : Nat) (opening closing : String) (lines : List String) : String :=
  if lines.isEmpty then opening ++ closing
  else
    opening ++ newLine (depth + 1) ++ String.intercalate ("," ++ newLine (depth + 1)) lines ++
      newLine depth ++ closing

mutual

/-- The text of a value inside `depth` brackets. -/
def prettyAt (depth : Nat) : JsonValue → String
  | bool true => "true"
  | bool false => "false"
  | number value => toString value
  | string text => quote text
  | array items => enclose depth "[" "]" (prettyItems (depth + 1) items)
  | object entries => enclose depth "\x7b" "\x7d" (prettyEntries (depth + 1) entries)

/-- The texts of the items of an array. -/
def prettyItems (depth : Nat) : List JsonValue → List String
  | [] => []
  | item :: rest => item.prettyAt depth :: prettyItems depth rest

/-- The texts of the entries of an object. -/
def prettyEntries (depth : Nat) : List (String × JsonValue) → List String
  | [] => []
  | (key, value) :: rest => (quote key ++ ": " ++ value.prettyAt depth) :: prettyEntries depth rest

end

/-- The text of a value. -/
def pretty (value : JsonValue) : String := value.prettyAt 0

end JsonValue

end ElmCodec
