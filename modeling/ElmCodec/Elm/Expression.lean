/-
**Pieces of Elm expressions.**

* `argument` — an expression as one argument: in parentheses if it has a space.
* `stringLiteral` — a text as a string literal on one line.
* `binder` — the name of the n-th variable of a function: the letters, then `v26`, `v27` and on.
-/

namespace ElmCodec.Elm

/-- An expression as one argument of an application. -/
def argument (expression : String) : String :=
  if ' ' ∈ expression.toList then "(" ++ expression ++ ")" else expression

/-- A character inside a string literal. -/
def escapeChar (c : Char) : List Char :=
  if c = '"' then ['\\', '"']
  else if c = '\\' then ['\\', '\\']
  else if c = '\n' then ['\\', 'n']
  else [c]

/-- A text between the quotes of a string literal. -/
def escapeChars (cs : List Char) : List Char := cs.flatMap escapeChar

/-- A text as a string literal. -/
def stringLiteral (text : String) : String :=
  String.ofList ('"' :: escapeChars text.toList ++ ['"'])

/-- The small letters, in order. -/
def letters : List Char := "abcdefghijklmnopqrstuvwxyz".toList

/-- The name of the variable at a position, counted from zero. -/
def binder (index : Nat) : String :=
  match letters[index]? with
  | some letter => String.singleton letter
  | none => "v" ++ toString index

end ElmCodec.Elm
