/-
**Anchors, tags and directives of a YAML text.**

* `anchorName` — the name behind `&` or `*`.
* `tagProperty` — the handle and the rest of a tag.
* `directive` — the token of a directive line.
-/

import ElmCodec.Yaml.Token.Scalar

namespace ElmCodec.Yaml

/-- The name behind `&` or `*`, where the cursor is. -/
def anchorName (cursor : Cursor) : Option (String × Cursor) :=
  let (name, behind) := (cursor.skip 1).takeRun isWordChar
  let ends := atGap behind.text ||
    behind.text.head?.any fun c => "?:,]\x7d%@\x60".toList.contains c
  if !name.isEmpty && ends then some (String.ofList name, behind) else none

/-! ### Tags -/

/-- The characters of a tag. The comma and the brackets stand only in one that is written in
full. -/
def isTagChar (full : Bool) (c : Char) : Bool :=
  isWordChar c || ";/?:@&=+$.%!~*\x27()".toList.contains c || (full && ",[]".toList.contains c)

/-- The octet written as `%XX` at the start of a text. -/
def escapedOctet? : List Char → Option Nat
  | '%' :: high :: low :: _ => hexNumber? 0 [high, low]
  | _ => none

/-- The further octets of a character, continued from its leading bits. -/
def furtherOctets : Nat → Nat → Cursor → Option (Nat × Cursor)
  | 0, code, cursor => some (code, cursor)
  | count + 1, code, cursor => do
    let octet ← escapedOctet? cursor.text
    if octet / 64 != 2 then none
    furtherOctets count (code * 64 + octet % 64) (cursor.skip 3)

/-- The character whose UTF-8 octets are escaped here. -/
def escapedCode (cursor : Cursor) : Option (Char × Cursor) := do
  let octet ← escapedOctet? cursor.text
  let (further, start) ←
    if octet / 128 == 0 then some (0, octet)
    else if octet / 32 == 6 then some (1, octet % 32)
    else if octet / 16 == 14 then some (2, octet % 16)
    else if octet / 8 == 30 then some (3, octet % 8)
    else none
  let (code, behind) ← furtherOctets further start (cursor.skip 3)
  return (Char.ofNat code, behind)

/-- The characters of a tag, its escapes resolved. -/
def tagChars (full : Bool) : Nat → List Char → Cursor → Option (List Char × Cursor)
  | 0, read, cursor => some (read, cursor)
  | fuel + 1, read, cursor =>
    match cursor.text with
    | '%' :: _ => do
      let (c, behind) ← escapedCode cursor
      tagChars full fuel (read ++ [c]) behind
    | c :: _ =>
      if isTagChar full c then tagChars full fuel (read ++ [c]) (cursor.skip 1)
      else some (read, cursor)
    | [] => some (read, cursor)

/-- The characters of a tag here. -/
def readTagChars (full : Bool) (cursor : Cursor) : Option (List Char × Cursor) :=
  tagChars full (cursor.text.length + 1) [] cursor

/-- An exclamation mark, word characters, and another exclamation mark if there is one. -/
def readHandle (cursor : Cursor) : Option (List Char × Cursor) :=
  if !cursor.looksAt '!' then none
  else
    let (name, behind) := (cursor.skip 1).takeRun isWordChar
    if behind.looksAt '!' then some ('!' :: name ++ ['!'], behind.skip 1)
    else some ('!' :: name, behind)

/-- Whether a handle has an exclamation mark at both ends. -/
def isClosedHandle (handle : List Char) : Bool :=
  handle.length > 1 && handle.getLast? == some '!'

/-- A tag as its handle and the rest, where the cursor is at its exclamation mark. The handle is
empty when the rest is the whole tag. -/
def tagParts (cursor : Cursor) : Option (List Char × List Char × Cursor) :=
  if cursor.text.take 2 == ['!', '<'] then do
    let (rest, behind) ← readTagChars true (cursor.skip 2)
    if rest.isEmpty || !behind.looksAt '>' then none
    return ([], rest, behind.skip 1)
  else do
    let (handle, behind) ← readHandle cursor
    let (rest, next) ← readTagChars false behind
    if isClosedHandle handle then
      if rest.isEmpty then none else return (handle, rest, next)
    else
      let whole := handle.drop 1 ++ rest
      if whole.isEmpty then return ([], ['!'], next) else return (['!'], whole, next)

/-- The token of a tag. -/
def tagProperty (inFlow : Bool) (cursor : Cursor) : Option (Token × Cursor) := do
  let (handle, rest, behind) ← tagParts cursor
  if atGap behind.text || (inFlow && behind.looksAt ',') then
    return (.tag (String.ofList handle) (String.ofList rest), behind)
  none

/-! ### Directives -/

/-- A number of at most nine digits. -/
def versionNumber (cursor : Cursor) : Option (Nat × Cursor) :=
  let (digits, behind) := cursor.takeRun Char.isDigit
  if digits.isEmpty || digits.length > 9 then none
  else some (digits.foldl (fun value c => value * 10 + (c.toNat - '0'.toNat)) 0, behind)

/-- The token of a directive with a name, where the cursor is behind the name. -/
def directiveToken (name : List Char) (cursor : Cursor) : Option (Token × Cursor) :=
  let start := cursor.skipRun isSpace
  if name == "YAML".toList then do
    let (major, point) ← versionNumber start
    if !point.looksAt '.' then none
    let (minor, behind) ← versionNumber (point.skip 1)
    return (.version major minor, behind)
  else if name == "TAG".toList then do
    let (handle, behind) ← readHandle start
    if handle != ['!'] && !isClosedHandle handle then none
    if !behind.text.head?.any isSpace then none
    let (whole, next) ← readTagChars true (behind.skipRun isSpace)
    if whole.isEmpty || !atGap next.text then none
    return (.tagHandle (String.ofList handle) (String.ofList whole), next)
  else none

/-- The token of a directive line, where the cursor is at its percent sign. -/
def directive (cursor : Cursor) : Option (Token × Cursor) := do
  let (name, behind) := (cursor.skip 1).takeRun isWordChar
  if name.isEmpty || !atGap behind.text then none
  let (token, next) ← directiveToken name behind
  return (token, ← next.finishLine)

end ElmCodec.Yaml
