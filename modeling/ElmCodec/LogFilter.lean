/-
**Log filters.**

A filter is a list of directives with commas between them. A directive is a level, or a target with
a level: `warn`, `http=debug`, `http[request{id}]=trace`. A level is a word or a digit; a directive
without a level lets everything through.

* `LogFilter.isValid` — whether a text is a filter.
-/

import ElmCodec.Text.Alphanumeric
import ElmCodec.Text.Blank

namespace ElmCodec.LogFilter

open ElmCodec.Text

/-- The words for levels. -/
def levelWords : List String := ["error", "warn", "info", "debug", "trace", "off"]

/-- Whether a text is a number from zero to five, perhaps with zeros or a plus in front. -/
def isLevelNumber (cs : List Char) : Bool :=
  let digits := match cs with
    | '+' :: rest => rest
    | _ => cs
  match (digits.dropWhile (· == '0')) with
  | [] => !digits.isEmpty
  | [c] => '1' ≤ c && c ≤ '5'
  | _ => false

/-- Whether a text is a level. Capital and small letters are alike, and no text at all means the
most detailed level. -/
def isLevel (cs : List Char) : Bool :=
  cs.isEmpty || isLevelNumber cs || String.ofList (cs.map Char.toLower) ∈ levelWords

/-- How far a directive has been read. -/
inductive State where
  | start
  /-- In a target, or in a level that stands alone. -/
  | target
  /-- In a span, in brackets. -/
  | span
  /-- In the fields of a span, in braces; tells whether there is anything there yet. -/
  | fields (empty : Bool)
  /-- Behind the fields of a span. -/
  | fieldsEnd
  /-- Behind a span. -/
  | spanEnd
  /-- In a level, so many characters behind the start of the directive. -/
  | level (begin : Nat)
  deriving DecidableEq, Repr

/-- The state behind a character at a place in the directive. -/
def State.next (place : Nat) (c : Char) : State → Option State
  | start =>
    if c == '[' then some span
    else if c == '-' || c == ':' || c == '_' || isAlphanumeric c then some target
    else none
  | target =>
    some (if c == '=' then level (place + 1) else if c == '[' then span else target)
  | span =>
    some (if c == ']' then spanEnd else if c == '{' then fields true else span)
  | fields empty =>
    if c == '}' then if empty then none else some fieldsEnd else some (fields false)
  | fieldsEnd => if c == ']' then some spanEnd else none
  | spanEnd => if c == '=' then some (level (place + 1)) else none
  | level begin => some (level begin)

/-- The state behind a text that continues a directive. -/
def run (state : State) (place : Nat) : List Char → Option State
  | [] => some state
  | c :: rest => (state.next place c).bind fun next => run next (place + 1) rest

/-- Whether a text is a directive. Blank characters at its ends do not count for its form, but its
level is cut from the text as it stands. -/
def isDirective (cs : List Char) : Bool :=
  match run .start 0 (trimChars cs) with
  | some .target | some .spanEnd => true
  | some (.level begin) => isLevel (cs.drop begin)
  | _ => false

/-- Whether a text is a filter. Empty directives do not count. -/
def isValid (filter : String) : Bool :=
  ((filter.toList.splitOn ',').filter (!·.isEmpty)).all isDirective

end ElmCodec.LogFilter
