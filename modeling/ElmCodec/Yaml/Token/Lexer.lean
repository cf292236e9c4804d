/-
**Cutting a YAML stream into tokens.**

Whether a scalar is a key shows only at the colon behind it. A place where a key may start is
therefore remembered, and the colon puts the token of the key, and that of the mapping it opens, in
front of the scalar. Such a place is good for the rest of its line and 1024 characters.

* `Token.scan` — the tokens of a stream; there are none of a text that is no YAML.
-/

import ElmCodec.Yaml.Token.Property

namespace ElmCodec.Yaml

/-- A place where a key may start. -/
structure KeyPlace where
  /-- Whether a colon has to follow, since the place is at the indentation of a block mapping. -/
  required : Bool
  /-- The number of tokens in front of the place. -/
  before : Nat
  position : Position
  deriving DecidableEq, Repr

/-- What has been read of a stream. -/
structure Lexer where
  cursor : Cursor
  /-- The tokens so far, the last one first. -/
  tokens : List Token := []
  /-- The columns of the open block collections, the innermost first. -/
  indents : List Nat := []
  /-- Whether a key may start here. -/
  keyAllowed : Bool := true
  /-- The place of a possible key in the block context. -/
  blockKey : Option KeyPlace := none
  /-- The places of possible keys in the open flow collections, the innermost first. -/
  flowKeys : List (Option KeyPlace) := []
  deriving DecidableEq, Repr

namespace Lexer

/-- Whether a flow collection is open. -/
def inFlow (lexer : Lexer) : Bool := !lexer.flowKeys.isEmpty

/-- The column of the innermost block collection. -/
def indent? (lexer : Lexer) : Option Nat := lexer.indents.head?

/-- The column that the content of the innermost block collection has to reach. -/
def innerColumn (lexer : Lexer) : Nat :=
  match lexer.indent? with
  | none => 0
  | some column => column + 1

/-- Whether a column is deeper than the innermost block collection. -/
def isDeeper (lexer : Lexer) (column : Nat) : Bool := lexer.indent?.all (· < column)

/-- The lexer behind a token. -/
def push (lexer : Lexer) (token : Token) : Lexer := { lexer with tokens := token :: lexer.tokens }

/-- The lexer at a cursor. -/
def moveTo (lexer : Lexer) (cursor : Cursor) : Lexer := { lexer with cursor }

/-- The lexer behind a token of some characters. -/
def pushSkip (lexer : Lexer) (token : Token) (count : Nat) : Lexer :=
  (lexer.push token).moveTo (lexer.cursor.skip count)

/-- The lexer with a token put in front of all but the first `before` ones. -/
def insertAt (lexer : Lexer) (before : Nat) (token : Token) : Lexer :=
  let later := lexer.tokens.length - before
  { lexer with tokens := lexer.tokens.take later ++ token :: lexer.tokens.drop later }

/-- The lexer with another rule on keys. -/
def allowKey (lexer : Lexer) (keyAllowed : Bool) : Lexer := { lexer with keyAllowed }

/-! ### Places of keys -/

/-- The place of a possible key in the innermost context. -/
def keyPlace? (lexer : Lexer) : Option KeyPlace :=
  match lexer.flowKeys with
  | [] => lexer.blockKey
  | innermost :: _ => innermost

/-- The lexer with another place of a possible key in the innermost context. -/
def setKeyPlace (lexer : Lexer) (place : Option KeyPlace) : Lexer :=
  match lexer.flowKeys with
  | [] => { lexer with blockKey := place }
  | _ :: outer => { lexer with flowKeys := place :: outer }

/-- Gives up the place of a possible key, which must not be a required one. -/
def dropKeyPlace (lexer : Lexer) : Option Lexer :=
  if lexer.keyPlace?.any (·.required) then none else some (lexer.setKeyPlace none)

/-- Remembers that a key may start here, if one may. -/
def markKeyPlace (lexer : Lexer) : Option Lexer :=
  if !lexer.keyAllowed then some lexer
  else
    lexer.dropKeyPlace.map fun cleared => cleared.setKeyPlace <| some
      { required := !lexer.inFlow && lexer.indent? == some lexer.cursor.column
        before := lexer.tokens.length
        position := lexer.cursor.position }

/-- A place that is still good at a position. A required one must be. -/
def refreshPlace (here : Position) : Option KeyPlace → Option (Option KeyPlace)
  | none => some none
  | some place =>
    if place.position.line < here.line || place.position.index + 1024 < here.index then
      if place.required then none else some none
    else some (some place)

/-- Gives up the places that are no longer good. -/
def refreshPlaces (lexer : Lexer) : Option Lexer := do
  let here := lexer.cursor.position
  let blockKey ← refreshPlace here lexer.blockKey
  let flowKeys ← lexer.flowKeys.mapM (refreshPlace here)
  return { lexer with blockKey, flowKeys }

/-! ### Indentation -/

/-- Opens a block collection at a column that is deeper than the innermost one. -/
def openBlock (lexer : Lexer) (column : Nat) (start : Token) (before : Nat) : Lexer :=
  if !lexer.inFlow && lexer.isDeeper column then
    { lexer.insertAt before start with indents := column :: lexer.indents }
  else lexer

/-- Opens a block collection here. -/
def openBlockHere (lexer : Lexer) (start : Token) : Lexer :=
  lexer.openBlock lexer.cursor.column start lexer.tokens.length

/-- The block collections that end at a column. -/
def closedBy (column : Nat) (indents : List Nat) : List Nat := indents.takeWhile (column < ·)

/-- Closes block collections by their columns. -/
def closeBlocks (lexer : Lexer) (closed : List Nat) : Lexer :=
  if lexer.inFlow then lexer
  else
    { lexer with
      tokens := closed.map (fun _ => .blockEnd) ++ lexer.tokens
      indents := lexer.indents.drop closed.length }

/-- Closes the block collections that are deeper than a column. -/
def closeDeeper (lexer : Lexer) (column : Nat) : Lexer :=
  lexer.closeBlocks (closedBy column lexer.indents)

/-- Closes all block collections. -/
def closeAll (lexer : Lexer) : Lexer := lexer.closeBlocks lexer.indents

/-! ### Between tokens -/

/-- Goes on to the next token, over spaces, comments and line breaks. A tab counts as a space where
no key may start. -/
def skipToToken : Nat → Lexer → Lexer
  | 0, lexer => lexer
  | fuel + 1, lexer =>
    let start := if lexer.cursor.position.index == 0 && lexer.cursor.looksAt '\ufeff' then
      lexer.cursor.skip 1 else lexer.cursor
    let behind := start.skipRun fun c =>
      c == ' ' || ((lexer.inFlow || !lexer.keyAllowed) && c == '\t')
    let behind := if behind.looksAt '#' then behind.skipRun (!isBreak ·) else behind
    match behind.takeBreak with
    | some (_, next) =>
      skipToToken fuel
        { lexer with cursor := next, keyAllowed := lexer.keyAllowed || !lexer.inFlow }
    | none => lexer.moveTo behind

/-! ### Tokens -/

/-- Ends what must not go on into another document. -/
def endDocument (lexer : Lexer) : Option Lexer :=
  lexer.closeAll.dropKeyPlace.map (·.allowKey false)

/-- The first character of a scalar without quotes. -/
def startsPlain (inFlow : Bool) : List Char → Bool
  | [] => false
  | c :: rest =>
    if c == '-' then !rest.head?.any isSpace
    else if c == '?' || c == ':' then !inFlow && !atGap rest
    else !isSpace c && !isBreak c && !",[]\x7b\x7d#&*!|>\x27\"%@\x60".toList.contains c

/-- Reads an entry of a block sequence. -/
def takeBlockEntry (lexer : Lexer) : Option Lexer := do
  if !lexer.inFlow && !lexer.keyAllowed then none
  let opened := if lexer.inFlow then lexer else lexer.openBlockHere .blockSequenceStart
  let cleared ← opened.dropKeyPlace
  return (cleared.allowKey true).pushSkip .blockEntry 1

/-- Reads the mark of a key that is written out. -/
def takeKey (lexer : Lexer) : Option Lexer := do
  if !lexer.inFlow && !lexer.keyAllowed then none
  let opened := if lexer.inFlow then lexer else lexer.openBlockHere .blockMappingStart
  let cleared ← opened.dropKeyPlace
  return (cleared.allowKey !lexer.inFlow).pushSkip .key 1

/-- Reads the mark of a value, which may make a key of what stands before it. -/
def takeValue (lexer : Lexer) : Option Lexer :=
  match lexer.keyPlace? with
  | some place =>
    let opened := (lexer.insertAt place.before .key).openBlock place.position.column
      .blockMappingStart place.before
    some (((opened.setKeyPlace none).allowKey false).pushSkip .value 1)
  | none =>
    if !lexer.inFlow && !lexer.keyAllowed then none
    else
      let opened := if lexer.inFlow then lexer else lexer.openBlockHere .blockMappingStart
      some ((opened.allowKey !lexer.inFlow).pushSkip .value 1)

/-- Reads an opening bracket. -/
def takeFlowStart (lexer : Lexer) (token : Token) : Option Lexer :=
  lexer.markKeyPlace.map fun marked =>
    ({ marked with flowKeys := none :: marked.flowKeys, keyAllowed := true }).pushSkip token 1

/-- Reads a closing bracket. -/
def takeFlowEnd (lexer : Lexer) (token : Token) : Option Lexer :=
  lexer.dropKeyPlace.map fun cleared =>
    ({ cleared with flowKeys := cleared.flowKeys.drop 1, keyAllowed := false }).pushSkip token 1

/-- Reads a block scalar. -/
def takeBlockScalar (lexer : Lexer) (literal : Bool) : Option Lexer := do
  let cleared ← lexer.dropKeyPlace
  let (text, behind) ← blockScalar literal lexer.indent? lexer.cursor
  let style := if literal then Style.literal else Style.quoted
  return ((cleared.allowKey true).push (.scalar style (String.ofList text))).moveTo behind

/-- Reads a scalar in quotes. -/
def takeQuoted (lexer : Lexer) (double : Bool) : Option Lexer := do
  let marked ← lexer.markKeyPlace
  let (text, behind) ← quotedScalar double lexer.cursor
  return ((marked.allowKey false).push (.scalar .quoted (String.ofList text))).moveTo behind

/-- Reads a scalar without quotes. A key may start behind it if its line has ended. -/
def takePlain (lexer : Lexer) : Option Lexer := do
  let marked ← lexer.markKeyPlace
  let (text, lineEnded, behind) ← plainScalar lexer.inFlow lexer.innerColumn lexer.cursor
  return ((marked.allowKey lineEnded).push (.scalar .plain (String.ofList text))).moveTo behind

/-- Reads a token that is made by a function of the cursor, in a place where a key may start. -/
def takeProperty (lexer : Lexer) (read : Cursor → Option (Token × Cursor)) : Option Lexer := do
  let marked ← lexer.markKeyPlace
  let (token, behind) ← read lexer.cursor
  return ((marked.allowKey false).push token).moveTo behind

/-- Reads a directive line. -/
def takeDirective (lexer : Lexer) : Option Lexer := do
  let ended ← lexer.endDocument
  let (token, behind) ← directive lexer.cursor
  return (ended.push token).moveTo behind

/-- Reads a mark between documents. -/
def takeDocumentMark (lexer : Lexer) : Option Lexer :=
  let token := if lexer.cursor.looksAt '-' then Token.documentStart else Token.documentEnd
  lexer.endDocument.map (·.pushSkip token 3)

/-- Reads the token that starts at the cursor, where the text is not at its end. -/
def takeToken (lexer : Lexer) (c : Char) (rest : List Char) : Option Lexer :=
  let cursor := lexer.cursor
  if cursor.column == 0 && c == '%' then lexer.takeDirective
  else if cursor.column == 0 && atDocumentMark cursor.text then lexer.takeDocumentMark
  else if c == '[' then lexer.takeFlowStart .flowSequenceStart
  else if c == '{' then lexer.takeFlowStart .flowMappingStart
  else if c == ']' then lexer.takeFlowEnd .flowSequenceEnd
  else if c == '}' then lexer.takeFlowEnd .flowMappingEnd
  else if c == ',' then
    lexer.dropKeyPlace.map fun cleared => (cleared.allowKey true).pushSkip .flowEntry 1
  else if c == '-' && atGap rest then lexer.takeBlockEntry
  else if c == '?' && (lexer.inFlow || atGap rest) then lexer.takeKey
  else if c == ':' && (lexer.inFlow || atGap rest) then lexer.takeValue
  else if c == '*' then
    lexer.takeProperty fun cursor =>
      (anchorName cursor).map fun (name, next) => (.reference name, next)
  else if c == '&' then
    lexer.takeProperty fun cursor =>
      (anchorName cursor).map fun (name, next) => (.anchor name, next)
  else if c == '!' then lexer.takeProperty (tagProperty lexer.inFlow)
  else if c == '|' && !lexer.inFlow then lexer.takeBlockScalar true
  else if c == '>' && !lexer.inFlow then lexer.takeBlockScalar false
  else if c == '\x27' then lexer.takeQuoted false
  else if c == '"' then lexer.takeQuoted true
  else if startsPlain lexer.inFlow cursor.text then lexer.takePlain
  else none

/-- The tokens from here to the end of the stream. -/
def run : Nat → Lexer → Option (List Token)
  | 0, _ => none
  | fuel + 1, lexer => do
    let fresh ← (lexer.skipToToken (lexer.cursor.text.length + 1)).refreshPlaces
    let here := fresh.closeDeeper fresh.cursor.column
    match here.cursor.text with
    | [] => here.endDocument.map fun ended => ended.tokens.reverse
    | c :: rest => run fuel (← here.takeToken c rest)

end Lexer

/-- The tokens of a stream. Every token but those of indentation takes a character at least. -/
def Token.scan (text : String) : Option (List Token) :=
  let chars := text.toList
  if chars.all isAllowed then Lexer.run (chars.length + 1) { cursor := { text := chars } } else none

end ElmCodec.Yaml
