/-
**Places in a YAML text, and its character classes.**

A cursor is the rest of a text together with the place where the rest starts. Lines end at a line
feed, a carriage return, both together, or one of three further characters; a line break reads as a
line feed, but the line and paragraph separators stay themselves.

* `Cursor.skip`, `Cursor.takeRun`, `Cursor.takeBreak` — going on over characters of one line, over
  all that satisfy a predicate, and over a line break.
-/

namespace ElmCodec.Yaml

/-! ### Character classes -/

/-- The characters that may occur in a stream at all. -/
def isAllowed (c : Char) : Bool :=
  let code := c.toNat
  code == 0x9 || code == 0xA || code == 0xD || (0x20 ≤ code && code ≤ 0x7E) || code == 0x85 ||
    (0xA0 ≤ code && code ≤ 0xD7FF) || (0xE000 ≤ code && code ≤ 0xFFFD && code != 0xFEFF) ||
    code == 0xFEFF || 0x10000 ≤ code

/-- The characters of anchors and handles. -/
def isWordChar (c : Char) : Bool := c.isAlphanum || c == '_' || c == '-'

/-- Spaces and tabs. -/
def isSpace (c : Char) : Bool := c == ' ' || c == '\t'

/-- The characters that end a line. -/
def isBreak (c : Char) : Bool :=
  c == '\n' || c == '\r' || c == '\u0085' || c == '\u2028' || c == '\u2029'

/-- Whether a text is at its end, or goes on with a space, a tab or a line break. -/
def atGap : List Char → Bool
  | [] => true
  | c :: _ => isSpace c || isBreak c

/-- Whether a text is at the end of a line. -/
def atLineEnd : List Char → Bool
  | [] => true
  | c :: _ => isBreak c

/-- Whether a text goes on with one of the two marks between documents. -/
def atDocumentMark : List Char → Bool
  | '-' :: '-' :: '-' :: rest => atGap rest
  | '.' :: '.' :: '.' :: rest => atGap rest
  | _ => false

/-! ### Cursors -/

/-- A place in a text: the characters before it, the lines before it, and the characters before it
in its line. -/
structure Position where
  index : Nat := 0
  line : Nat := 0
  column : Nat := 0
  deriving DecidableEq, Repr

/-- The rest of a text and the place where it starts. -/
structure Cursor where
  text : List Char
  position : Position := {}
  deriving DecidableEq, Repr

namespace Cursor

/-- The column of the next character. -/
def column (cursor : Cursor) : Nat := cursor.position.column

/-- Whether the next character is the given one. -/
def looksAt (cursor : Cursor) (c : Char) : Bool := cursor.text.head? == some c

/-- The cursor some characters further on in the same line. -/
def skip (cursor : Cursor) (count : Nat) : Cursor :=
  { text := cursor.text.drop count
    position := { cursor.position with
      index := cursor.position.index + count, column := cursor.position.column + count } }

/-- The longest run of characters that satisfy a predicate, and the cursor behind it. -/
def takeRun (cursor : Cursor) (accept : Char → Bool) : List Char × Cursor :=
  let run := cursor.text.takeWhile accept
  (run, cursor.skip run.length)

/-- The cursor behind the longest run of characters that satisfy a predicate. -/
def skipRun (cursor : Cursor) (accept : Char → Bool) : Cursor := (cursor.takeRun accept).2

/-- The cursor at the start of the next line, when `count` characters end this one. -/
def nextLine (cursor : Cursor) (count : Nat) : Cursor :=
  { text := cursor.text.drop count
    position :=
      { index := cursor.position.index + count, line := cursor.position.line + 1, column := 0 } }

/-- A line break as the character it reads as, and the cursor behind it. -/
def takeBreak (cursor : Cursor) : Option (Char × Cursor) :=
  match cursor.text with
  | '\r' :: '\n' :: _ => some ('\n', cursor.nextLine 2)
  | c :: _ =>
    if c == '\n' || c == '\r' || c == '\u0085' then some ('\n', cursor.nextLine 1)
    else if isBreak c then some (c, cursor.nextLine 1)
    else none
  | [] => none

/-- The cursor behind a line break, if there is one here. -/
def skipBreak (cursor : Cursor) : Cursor := (cursor.takeBreak.map (·.2)).getD cursor

/-- The cursor at the end of the line, if nothing but spaces and a comment is left of it. -/
def finishLine (cursor : Cursor) : Option Cursor :=
  let blank := cursor.skipRun isSpace
  let rest := if blank.looksAt '#' then blank.skipRun (!isBreak ·) else blank
  if atLineEnd rest.text then some rest.skipBreak else none

end Cursor

end ElmCodec.Yaml
