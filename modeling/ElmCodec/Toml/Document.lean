/-
**TOML documents.**

A document is made of lines: a key with a value, or a header that opens a table for the lines
behind it.

* `parse?` — the entries of a document.
-/

import ElmCodec.Toml.Scalar

namespace ElmCodec.Toml

/-! ### Keys -/

/-- The characters of a key without quotes. -/
def isKeyChar (c : Char) : Bool := c.isAlphanum || c == '_' || c == '-'

/-- One part of a key. -/
def keyPart (cs : List Char) : Option (String × List Char) :=
  match shortString? cs with
  | some part => some part
  | none =>
    let name := cs.takeWhile isKeyChar
    if name.isEmpty then none else some (String.ofList name, cs.dropWhile isKeyChar)

/-- The parts of a key with points between them. -/
def keyParts : Nat → List Char → Option (List String × List Char)
  | 0, _ => none
  | fuel + 1, cs => do
    let (part, rest) ← keyPart (skipSpaces cs)
    match skipSpaces rest with
    | '.' :: after => do
      let (parts, behind) ← keyParts fuel after
      return (part :: parts, behind)
    | behind => return ([part], behind)

/-- A key and the text behind it. -/
def key (cs : List Char) : Option (List String × List Char) := keyParts (cs.length + 1) cs

/-! ### Values -/

/-- The text behind blank characters, line breaks and comments. -/
def skipLines : Nat → List Char → List Char
  | 0, cs => cs
  | fuel + 1, cs =>
    let rest := skipComment cs
    match lineBreak? rest with
    | some next => skipLines fuel next
    | none => rest

/-- The text behind everything between two items of a collection. -/
def skipBetween (cs : List Char) : List Char := skipLines (cs.length + 1) cs

/-- The number of collections that a value may hold inside one another. -/
def depthLimit : Nat := 80

/-- Items with commas between them, up to a closing bracket; a comma may follow the last one. -/
def separated {α : Type} (closing : Char) (item : List Char → Option (α × List Char)) :
    Nat → List Char → Option (List α × List Char)
  | 0, _ => none
  | fuel + 1, cs =>
    match skipBetween cs with
    | [] => none
    | c :: rest =>
      if c == closing then some ([], rest)
      else do
        let (first, behind) ← item (c :: rest)
        match skipBetween behind with
        | ',' :: after => do
          let (items, final) ← separated closing item fuel after
          return (first :: items, final)
        | next :: after => if next == closing then return ([first], after) else none
        | [] => none

/-- A key and its value. -/
def keyValue (value : List Char → Option (Value × List Char)) (cs : List Char) :
    Option ((List String × Value) × List Char) := do
  let (path, rest) ← key cs
  match rest with
  | '=' :: after => do
    let (value, behind) ← value (skipSpaces after)
    return ((path, value), behind)
  | _ => none

/-- A value that holds fewer than `depth` collections inside one another. -/
def value : (depth : Nat) → List Char → Option (Value × List Char)
  | 0, _ => none
  | depth + 1, cs =>
    match cs with
    | '"' :: _ | '\x27' :: _ => (quotedString cs).map fun (text, rest) => (.string text, rest)
    | '[' :: rest =>
      (separated ']' (value depth) (rest.length + 1) rest).map fun (items, behind) =>
        (.array items, behind)
    | '{' :: rest => do
      let (assignments, behind) ←
        separated '}' (keyValue (value depth)) (rest.length + 1) rest
      let entries ← assignments.foldlM (fun entries (path, value) =>
        Entries.assign path value entries) []
      return (.table .inline entries, behind)
    | _ => do
      let (word, rest) := takeWord cs
      return (← scalar? word, rest)

/-! ### Lines -/

/-- A line that says something. -/
inductive Line where
  | header (path : List String)
  | element (path : List String)
  | assignment (path : List String) (value : Value)

/-- The text behind the end of a line. -/
def finishLine (cs : List Char) : Option (List Char) :=
  match skipComment cs with
  | [] => some []
  | rest => lineBreak? rest

/-- A line that says something, and the text behind it. -/
def line (cs : List Char) : Option (Line × List Char) :=
  match cs with
  | '[' :: '[' :: rest => do
    let (path, behind) ← key rest
    match behind with
    | ']' :: ']' :: after => return (.element path, after)
    | _ => none
  | '[' :: rest => do
    let (path, behind) ← key rest
    match behind with
    | ']' :: after => return (.header path, after)
    | _ => none
  | _ => do
    let ((path, value), behind) ← keyValue (value (depthLimit + 1)) cs
    return (.assignment path value, behind)

/-- The lines of a document that say something. -/
def lines : Nat → List Char → Option (List Line)
  | 0, _ => none
  | fuel + 1, cs =>
    match skipBetween cs with
    | [] => some []
    | start => do
      let (first, behind) ← line start
      return first :: (← lines fuel (← finishLine behind))

/-- The entries that a line makes of earlier ones, and the header that is in force then. -/
def Line.apply (state : List String × Entries) : Line → Option (List String × Entries)
  | header path => (state.2.define path).map fun entries => (path, entries)
  | element path => (state.2.addElement path).map fun entries => (path, entries)
  | assignment path value =>
    (state.2.assignIn state.1 path value).map fun entries => (state.1, entries)

/-- The text without the mark of its byte order. -/
def withoutMark : List Char → List Char
  | '\ufeff' :: rest => rest
  | cs => cs

/-- The entries of a document. -/
def parse? (text : String) : Option Entries := do
  let chars := withoutMark text.toList
  let lines ← lines (chars.length + 1) chars
  let (_, entries) ← lines.foldlM Line.apply ([], [])
  if Value.entriesReadable entries then return entries else none

end ElmCodec.Toml
