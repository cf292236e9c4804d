/-
**Strings, numbers and moments of TOML.**

* `quotedString` — a string in quotes of either kind, on one line or on several.
* `scalar?` — the value of a word without quotes.
-/

import ElmCodec.Toml.Value
import ElmCodec.Yaml.Number

namespace ElmCodec.Toml

open ElmCodec.Yaml (digits?)

/-! ### Lines -/

/-- Spaces and tabs. -/
def isSpace (c : Char) : Bool := c == ' ' || c == '\t'

/-- The text behind spaces and tabs. -/
def skipSpaces (cs : List Char) : List Char := cs.dropWhile isSpace

/-- The characters that may stand in a comment and in a string as they are. -/
def isText (c : Char) : Bool := c == '\t' || (0x20 ≤ c.toNat && c.toNat != 0x7F)

/-- The text behind a line break. -/
def lineBreak? : List Char → Option (List Char)
  | '\n' :: rest => some rest
  | '\r' :: '\n' :: rest => some rest
  | _ => none

/-- The text behind spaces and a comment, if there is one. -/
def skipComment (cs : List Char) : List Char :=
  match skipSpaces cs with
  | '#' :: rest => rest.dropWhile isText
  | rest => rest

/-! ### Strings -/

/-- The character that a backslash and a letter stand for, where no code point follows. -/
def escapedChar? (c : Char) : Option Char :=
  match c with
  | 'b' => some '\x08'
  | 't' => some '\t'
  | 'n' => some '\n'
  | 'f' => some '\x0c'
  | 'r' => some '\r'
  | 'e' => some '\x1b'
  | '"' => some '"'
  | '\\' => some '\\'
  | _ => none

/-- The number of digits of a code point behind a backslash and a letter. -/
def escapedDigits? (c : Char) : Option Nat :=
  match c with
  | 'x' => some 2
  | 'u' => some 4
  | 'U' => some 8
  | _ => none

/-- The character of an escape, given the text behind its backslash, and the text behind it. -/
def escape? : List Char → Option (Char × List Char)
  | [] => none
  | c :: rest =>
    match escapedDigits? c with
    | some count => do
      if rest.length < count then none
      let code ← digits? 16 (rest.take count)
      if code.isValidChar then return (Char.ofNat code, rest.drop count) else none
    | none => (escapedChar? c).map fun plain => (plain, rest)

/-- The text behind an escaped line break and all blank characters that follow, if it is one. -/
def escapedBreak? (cs : List Char) : Option (List Char) :=
  (lineBreak? (skipSpaces cs)).map fun rest =>
    rest.dropWhile fun c => isSpace c || c == '\n' || c == '\r'

/-- The rest of a string on one line, up to its quote. -/
def lineString (double : Bool) : Nat → List Char → List Char → Option (List Char × List Char)
  | 0, _, _ => none
  | fuel + 1, read, cs =>
    match cs, double with
    | '"' :: rest, true => some (read, rest)
    | '\x27' :: rest, false => some (read, rest)
    | '\\' :: rest, true => do
      let (c, behind) ← escape? rest
      lineString double fuel (read ++ [c]) behind
    | c :: rest, _ => if isText c then lineString double fuel (read ++ [c]) rest else none
    | [], _ => none

/-- The quotes at the start of a text, five at most. -/
def quoteRun (quote : Char) (cs : List Char) : Nat := ((cs.take 5).takeWhile (· == quote)).length

/-- The rest of a string on several lines, up to its three quotes. Up to two quotes more belong to
the string. -/
def blockString (double : Bool) : Nat → List Char → List Char → Option (List Char × List Char)
  | 0, _, _ => none
  | fuel + 1, read, cs =>
    let quote := if double then '"' else '\x27'
    let run := quoteRun quote cs
    if run ≥ 3 then some (read ++ List.replicate (run - 3) quote, cs.drop run)
    else
      match lineBreak? cs with
      | some rest => blockString double fuel (read ++ ['\n']) rest
      | none =>
        match cs, double with
        | '\\' :: rest, true =>
          match escapedBreak? rest with
          | some behind => blockString double fuel read behind
          | none => do
            let (c, behind) ← escape? rest
            blockString double fuel (read ++ [c]) behind
        | c :: rest, _ => if isText c then blockString double fuel (read ++ [c]) rest else none
        | [], _ => none

/-- A string on one line, if there is one here. -/
def shortString? (cs : List Char) : Option (String × List Char) :=
  let string (double : Bool) (rest : List Char) :=
    (lineString double (rest.length + 1) [] rest).map fun (read, behind) =>
      (String.ofList read, behind)
  match cs with
  | '"' :: rest => string true rest
  | '\x27' :: rest => string false rest
  | _ => none

/-- A string of any kind, where the text starts with a quote. A line break right behind three
quotes does not count. -/
def quotedString (cs : List Char) : Option (String × List Char) :=
  let block (double : Bool) (rest : List Char) :=
    let start := (lineBreak? rest).getD rest
    (blockString double (start.length + 1) [] start).map fun (read, behind) =>
      (String.ofList read, behind)
  match cs with
  | '"' :: '"' :: '"' :: rest => block true rest
  | '\x27' :: '\x27' :: '\x27' :: rest => block false rest
  | _ => shortString? cs

/-! ### Numbers -/

/-- Digits with underscores between them, as digits alone. -/
def joinDigits? (isDigit : Char → Bool) : List Char → Option (List Char)
  | [] => none
  | [c] => if isDigit c then some [c] else none
  | c :: '_' :: rest => if isDigit c then (joinDigits? isDigit rest).map (c :: ·) else none
  | c :: rest => if isDigit c then (joinDigits? isDigit rest).map (c :: ·) else none

/-- The digits of a number in base ten without a zero in front. -/
def plainDigits? (cs : List Char) : Option (List Char) := do
  let digits ← joinDigits? Char.isDigit cs
  if digits.head? == some '0' && digits.length > 1 then none else return digits

/-- A number of some base. -/
def basedInteger? (base : Nat) (cs : List Char) : Option Value := do
  let digits ← joinDigits? (fun c => (Yaml.digitValue? c).any (· < base)) cs
  return .integer (← digits? base digits)

/-- Whether a word has a minus in front, and the word without its sign. -/
def unsigned : List Char → Bool × List Char
  | '-' :: rest => (true, rest)
  | '+' :: rest => (false, rest)
  | cs => (false, cs)

/-- An integer. -/
def integer? (cs : List Char) : Option Value :=
  match cs with
  | '0' :: 'x' :: rest => basedInteger? 16 rest
  | '0' :: 'o' :: rest => basedInteger? 8 rest
  | '0' :: 'b' :: rest => basedInteger? 2 rest
  | _ => do
    let (negative, size) := unsigned cs
    let value ← digits? 10 (← plainDigits? size)
    return .integer (if negative then -(value : Int) else value)

/-- The exponent of a fraction, behind its letter. -/
def exponent? (cs : List Char) : Option Int := do
  let (negative, size) := unsigned cs
  let value ← digits? 10 (← joinDigits? Char.isDigit size)
  return if negative then -(value : Int) else value

/-- A fraction: digits, a point with digits or an exponent, or both. -/
def fraction? (cs : List Char) : Option Value := do
  let size := (unsigned cs).2
  if size == "inf".toList || size == "nan".toList then return .fraction true
  let isPart (c : Char) : Bool := c.isDigit || c == '_'
  let whole ← plainDigits? (size.takeWhile isPart)
  let behind := size.dropWhile isPart
  let (part, rest) ← match behind with
    | '.' :: after =>
      (joinDigits? Char.isDigit (after.takeWhile isPart)).map fun part =>
        (part, after.dropWhile isPart)
    | _ => some ([], behind)
  let exponent ← match rest with
    | 'e' :: after | 'E' :: after => exponent? after
    | [] => if part.isEmpty then none else some 0
    | _ => none
  let digits ← digits? 10 (whole ++ part)
  return .fraction (Decimal.ofDecimal digits (exponent - part.length)).isSome

/-! ### Moments -/

/-- A number of exactly `count` digits and the text behind it. -/
def fixedNumber (count : Nat) (cs : List Char) : Option (Nat × List Char) :=
  if cs.length < count then none
  else if (cs.take count).all Char.isDigit then
    (digits? 10 (cs.take count)).map fun value => (value, cs.drop count)
  else none

/-- The text behind a given character. -/
def behindChar (c : Char) : List Char → Option (List Char)
  | first :: rest => if first == c then some rest else none
  | [] => none

/-- The number of days of a month. -/
def daysIn (year month : Nat) : Nat :=
  if month = 2 then
    if year % 4 = 0 && (year % 100 != 0 || year % 400 = 0) then 29 else 28
  else if month ∈ [4, 6, 9, 11] then 30
  else 31

/-- The text behind a date. -/
def date? (cs : List Char) : Option (List Char) := do
  let (year, cs) ← fixedNumber 4 cs
  let (month, cs) ← fixedNumber 2 (← behindChar '-' cs)
  let (day, cs) ← fixedNumber 2 (← behindChar '-' cs)
  if 1 ≤ month && month ≤ 12 && 1 ≤ day && day ≤ daysIn year month then return cs else none

/-- The text behind a fraction of a second, if there is one. -/
def subsecond? (cs : List Char) : Option (List Char) :=
  match cs with
  | '.' :: rest =>
    if rest.head?.any Char.isDigit then some (rest.dropWhile Char.isDigit) else none
  | _ => some cs

/-- The text behind a time of day. The seconds may be left out. -/
def time? (cs : List Char) : Option (List Char) := do
  let (hour, cs) ← fixedNumber 2 cs
  let (minute, cs) ← fixedNumber 2 (← behindChar ':' cs)
  if hour > 23 || minute > 59 then none
  match behindChar ':' cs with
  | none => return cs
  | some rest => do
    let (second, cs) ← fixedNumber 2 rest
    if second > 60 then none else subsecond? cs

/-- The text behind the offset of a time, if there is one. -/
def offset? (cs : List Char) : Option (List Char) :=
  match cs with
  | 'Z' :: rest | 'z' :: rest => some rest
  | '+' :: rest | '-' :: rest => do
    let (hour, cs) ← fixedNumber 2 rest
    let (minute, cs) ← fixedNumber 2 (← behindChar ':' cs)
    if hour > 23 || minute > 59 then none else some cs
  | _ => some cs

/-- Whether a word is a date, a time of day, or both. -/
def isMoment (cs : List Char) : Bool :=
  match date? cs with
  | some [] => true
  | some (c :: rest) =>
    (c == 'T' || c == 't' || c == ' ') && ((time? rest).bind offset?).any (·.isEmpty)
  | none => (time? cs).any (·.isEmpty)

/-! ### Words -/

/-- The characters of a word. -/
def isWordChar (c : Char) : Bool :=
  c.isAlphanum || c == '_' || c == '-' || c == '+' || c == '.' || c == ':'

/-- A word without quotes, and the text behind it. A date and a time may have a space between
them. -/
def takeWord (cs : List Char) : List Char × List Char :=
  let word := cs.takeWhile isWordChar
  let rest := cs.dropWhile isWordChar
  match rest with
  | ' ' :: next :: after =>
    if date? word == some [] && next.isDigit then
      (word ++ ' ' :: (next :: after).takeWhile isWordChar, (next :: after).dropWhile isWordChar)
    else (word, rest)
  | _ => (word, rest)

/-- The value of a word without quotes. -/
def scalar? (word : List Char) : Option Value :=
  if word == "true".toList then some (.bool true)
  else if word == "false".toList then some (.bool false)
  else if isMoment word then some .moment
  else (integer? word).orElse fun _ => fraction? word

end ElmCodec.Toml
