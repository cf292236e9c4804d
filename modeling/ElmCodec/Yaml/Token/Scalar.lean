/-
**Scalars of a YAML text.**

A scalar in quotes or without quotes may go over several lines. Between two of its words there is a
gap: spaces within a line stay as they are, one line break reads as a space, and of several breaks
the first does not count. A block scalar keeps or folds the lines that are indented far enough.

* `plainScalar`, `quotedScalar`, `blockScalar` — a scalar and the cursor behind it.
-/

import ElmCodec.Yaml.Token
import ElmCodec.Yaml.Token.Cursor

namespace ElmCodec.Yaml

/-! ### Gaps between words -/

/-- What stands between two words of a scalar. -/
structure Gap where
  /-- The spaces and tabs, as long as there is no line break. -/
  spaces : List Char := []
  /-- The first line break; nothing of it is left when it is escaped. -/
  first : Option (List Char) := none
  /-- The further line breaks. -/
  more : List Char := []

namespace Gap

/-- Whether a line ends in the gap. -/
def breaksLine (gap : Gap) : Bool := gap.first.isSome

/-- The gap with a space or a tab. It counts only in front of a line break. -/
def addSpace (gap : Gap) (c : Char) : Gap :=
  if gap.breaksLine then gap else { gap with spaces := gap.spaces ++ [c] }

/-- The gap with a line break. -/
def addBreak (gap : Gap) (c : Char) : Gap :=
  if gap.breaksLine then { gap with more := gap.more ++ [c] } else { gap with first := some [c] }

/-- What a gap reads as. -/
def fold (gap : Gap) : List Char :=
  match gap.first with
  | none => gap.spaces
  | some ['\n'] => if gap.more.isEmpty then [' '] else gap.more
  | some first => first ++ gap.more

/-- Reads a gap on. A tab that indents a line less than `indent` is refused. -/
def readOn (indent : Nat) : Nat → Gap → Cursor → Option (Gap × Cursor)
  | 0, gap, cursor => some (gap, cursor)
  | fuel + 1, gap, cursor =>
    match cursor.takeBreak with
    | some (c, next) => readOn indent fuel (gap.addBreak c) next
    | none =>
      match cursor.text with
      | [] => some (gap, cursor)
      | c :: _ =>
        if !isSpace c then some (gap, cursor)
        else if gap.breaksLine && cursor.column < indent && c == '\t' then none
        else readOn indent fuel (gap.addSpace c) (cursor.skip 1)

/-- Reads a gap, or the rest of one that has begun. -/
def read (indent : Nat) (gap : Gap) (cursor : Cursor) : Option (Gap × Cursor) :=
  readOn indent cursor.text.length gap cursor

end Gap

/-! ### Scalars without quotes -/

/-- The brackets and the comma of flow collections. -/
def isFlowIndicator (c : Char) : Bool :=
  c == ',' || c == '[' || c == ']' || c == '{' || c == '}'

/-- The next word of a scalar without quotes. In a flow collection a colon in front of an indicator
is refused. -/
def plainWord (inFlow : Bool) : List Char → Option (List Char)
  | [] => some []
  | c :: rest =>
    if isSpace c || isBreak c then some []
    else if c == ':' && inFlow && rest.head?.any (fun next => isFlowIndicator next || next == '?')
    then none
    else if c == ':' && atGap rest then some []
    else if inFlow && isFlowIndicator c then some []
    else (plainWord inFlow rest).map (c :: ·)

/-- Reads a scalar without quotes on, behind the words `read` and a gap. The result tells whether a
line ends in the gap behind the last word. -/
def plainWords (inFlow : Bool) (indent : Nat) :
    Nat → List Char → Gap → Cursor → Option (List Char × Bool × Cursor)
  | 0, read, gap, cursor => some (read, gap.breaksLine, cursor)
  | fuel + 1, read, gap, cursor =>
    if (cursor.column == 0 && atDocumentMark cursor.text) || cursor.looksAt '#' then
      some (read, gap.breaksLine, cursor)
    else do
      let word ← plainWord inFlow cursor.text
      if word.isEmpty then some (read, gap.breaksLine, cursor)
      else
        let longer := read ++ gap.fold ++ word
        let behind := cursor.skip word.length
        if !atGap behind.text then some (longer, false, behind)
        else
          let (next, start) ← Gap.read indent {} behind
          if !inFlow && start.column < indent then some (longer, next.breaksLine, start)
          else plainWords inFlow indent fuel longer next start

/-- A scalar without quotes. -/
def plainScalar (inFlow : Bool) (indent : Nat) (cursor : Cursor) :
    Option (List Char × Bool × Cursor) :=
  plainWords inFlow indent (cursor.text.length + 1) [] {} cursor

/-! ### Scalars in quotes -/

/-- The value of a hexadecimal digit. -/
def hexDigit? (c : Char) : Option Nat :=
  if c.isDigit then some (c.toNat - '0'.toNat)
  else if 'a' ≤ c && c ≤ 'f' then some (c.toNat - 'a'.toNat + 10)
  else if 'A' ≤ c && c ≤ 'F' then some (c.toNat - 'A'.toNat + 10)
  else none

/-- The number written by hexadecimal digits, continued from a number. -/
def hexNumber? (value : Nat) : List Char → Option Nat
  | [] => some value
  | c :: rest => do hexNumber? (value * 16 + (← hexDigit? c)) rest

/-- The character with a code point. -/
def charOfCode? (code : Nat) : Option Char :=
  if code.isValidChar then some (Char.ofNat code) else none

/-- The character that a backslash and a letter stand for, where no code point follows. -/
def escapedChar? (c : Char) : Option Char :=
  match c with
  | '0' => some '\x00'
  | 'a' => some '\x07'
  | 'b' => some '\x08'
  | 't' => some '\t'
  | '\t' => some '\t'
  | 'n' => some '\n'
  | 'v' => some '\x0b'
  | 'f' => some '\x0c'
  | 'r' => some '\r'
  | 'e' => some '\x1b'
  | ' ' => some ' '
  | '"' => some '"'
  | '/' => some '/'
  | '\\' => some '\\'
  | 'N' => some '\u0085'
  | '_' => some '\u00a0'
  | 'L' => some '\u2028'
  | 'P' => some '\u2029'
  | _ => none

/-- The number of hexadecimal digits behind a backslash and a letter. -/
def escapedDigits? (c : Char) : Option Nat :=
  match c with
  | 'x' => some 2
  | 'u' => some 4
  | 'U' => some 8
  | _ => none

/-- The character of an escape, given the text behind its backslash, and the length of the
escape. -/
def escape? : List Char → Option (Char × Nat)
  | [] => none
  | c :: rest =>
    match escapedDigits? c with
    | some digits => do
      let code ← hexNumber? 0 (rest.take digits)
      if rest.length < digits then none else return (← charOfCode? code, digits + 2)
    | none => (escapedChar? c).map fun plain => (plain, 2)

/-- How a run of characters in quotes ends: at a gap or the closing quote, or with an escaped line
break. -/
inductive RunEnd where
  | here
  | escapedBreak

/-- Characters in quotes up to a gap or the closing quote. -/
def quotedRun (double : Bool) :
    Nat → List Char → Cursor → Option (List Char × RunEnd × Cursor)
  | 0, read, cursor => some (read, .here, cursor)
  | fuel + 1, read, cursor =>
    if atGap cursor.text then some (read, .here, cursor)
    else
      match double, cursor.text with
      | false, '\x27' :: '\x27' :: _ => quotedRun double fuel (read ++ ['\x27']) (cursor.skip 2)
      | false, '\x27' :: _ => some (read, .here, cursor)
      | true, '"' :: _ => some (read, .here, cursor)
      | true, '\\' :: rest =>
        if !rest.isEmpty && atLineEnd rest then
          some (read, .escapedBreak, (cursor.skip 1).skipBreak)
        else do
          let (c, length) ← escape? rest
          quotedRun double fuel (read ++ [c]) (cursor.skip length)
      | _, c :: _ => quotedRun double fuel (read ++ [c]) (cursor.skip 1)
      | _, [] => some (read, .here, cursor)

/-- The rest of a scalar in quotes, up to the closing quote. -/
def quotedWords (double : Bool) : Nat → List Char → Cursor → Option (List Char × Cursor)
  | 0, _, _ => none
  | fuel + 1, read, cursor =>
    if (cursor.column == 0 && atDocumentMark cursor.text) || cursor.text.isEmpty then none
    else do
      let (longer, ending, behind) ← quotedRun double (cursor.text.length + 1) read cursor
      if behind.looksAt (if double then '"' else '\x27') then some (longer, behind.skip 1)
      else
        let begun : Gap := match ending with
          | .here => {}
          | .escapedBreak => { first := some [] }
        let (gap, start) ← Gap.read 0 begun behind
        quotedWords double fuel (longer ++ gap.fold) start

/-- A scalar in double or single quotes; the cursor is at the opening one. -/
def quotedScalar (double : Bool) (cursor : Cursor) : Option (List Char × Cursor) :=
  quotedWords double (cursor.text.length + 1) [] (cursor.skip 1)

/-! ### Block scalars -/

/-- What becomes of the line breaks at the end of a block scalar. -/
inductive Chomping where
  | clip
  | strip
  | keep
  deriving DecidableEq

/-- The chomping that an indicator asks for. -/
def chomping? (c : Char) : Option Chomping :=
  if c == '+' then some .keep else if c == '-' then some .strip else none

/-- The indentation that a digit asks for; none may be zero. -/
def increment? (c : Char) : Option Nat :=
  if c.isDigit then some (c.toNat - '0'.toNat) else none

/-- The indicators behind the first character of a block scalar, in either order. -/
def blockIndicators (cursor : Cursor) : Option (Chomping × Option Nat × Cursor) :=
  let refuseZero (increment : Option Nat) : Option (Option Nat) :=
    if increment == some 0 then none else some increment
  match cursor.text.head?.bind chomping? with
  | some chomping => do
    let behind := cursor.skip 1
    let increment ← refuseZero (behind.text.head?.bind increment?)
    return (chomping, increment, if increment.isSome then behind.skip 1 else behind)
  | none => do
    let increment ← refuseZero (cursor.text.head?.bind increment?)
    if increment.isNone then return (.clip, none, cursor)
    let behind := cursor.skip 1
    match behind.text.head?.bind chomping? with
    | some chomping => return (chomping, increment, behind.skip 1)
    | none => return (.clip, increment, behind)

/-- The empty lines in front of a line of a block scalar: their breaks, the deepest indentation
seen, and the cursor at that line. An indentation that is not known yet is `none`. -/
def blockBreaks (indent : Option Nat) :
    Nat → List Char → Nat → Cursor → Option (List Char × Nat × Cursor)
  | 0, breaks, deepest, cursor => some (breaks, deepest, cursor)
  | fuel + 1, breaks, deepest, cursor =>
    let indented := match indent with
      | none => cursor.skipRun (· == ' ')
      | some column =>
        cursor.skip ((cursor.text.take (column - cursor.column)).takeWhile (· == ' ')).length
    let deepest := max deepest indented.column
    let outside := indent.all (indented.column < ·)
    if outside && indented.looksAt '\t' then none
    else
      match indented.takeBreak with
      | some (c, next) => blockBreaks indent fuel (breaks ++ [c]) deepest next
      | none => some (breaks, deepest, indented)

/-- The lines of a block scalar. `read` is the text so far, `leading` the break that ended the line
before, `breaks` the empty lines behind it, and `spaced` tells whether that line started with a
space or a tab. The result keeps the last breaks apart. -/
def blockLines (literal : Bool) (indent : Nat) :
    Nat → (read leading breaks : List Char) → (spaced : Bool) → Cursor →
    Option (List Char × List Char × List Char × Cursor)
  | 0, read, leading, breaks, _, cursor => some (read, leading, breaks, cursor)
  | fuel + 1, read, leading, breaks, spaced, cursor =>
    if cursor.column != indent || cursor.text.isEmpty then some (read, leading, breaks, cursor)
    else do
      let startsSpaced := cursor.text.head?.any isSpace
      let joined :=
        if !literal && leading == ['\n'] && !spaced && !startsSpaced then
          if breaks.isEmpty then [' '] else []
        else leading
      let (line, behind) := cursor.takeRun (!isBreak ·)
      let (ending, next) := match behind.takeBreak with
        | some (c, next) => ([c], next)
        | none => ([], behind)
      let (further, _, start) ← blockBreaks (some indent) (next.text.length + 1) [] 0 next
      blockLines literal indent fuel (read ++ joined ++ breaks ++ line) ending further startsSpaced
        start

/-- A block scalar inside a collection with the given indentation, if there is one; the cursor is
at its first character. -/
def blockScalar (literal : Bool) (parent : Option Nat) (cursor : Cursor) :
    Option (List Char × Cursor) := do
  let (chomping, increment, behind) ← blockIndicators (cursor.skip 1)
  let next ← behind.finishLine
  let given := increment.map (parent.getD 0 + ·)
  let (breaks, deepest, start) ← blockBreaks given (next.text.length + 1) [] 0 next
  let least := match parent with
    | none => 1
    | some column => column + 1
  let indent := given.getD (max deepest least)
  let (read, leading, last, rest) ←
    blockLines literal indent (start.text.length + 1) [] [] breaks false start
  match chomping with
  | .strip => return (read, rest)
  | .clip => return (read ++ leading, rest)
  | .keep => return (read ++ leading ++ last, rest)

end ElmCodec.Yaml
