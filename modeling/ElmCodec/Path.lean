/-
**Paths of files.**

A path is a text. Its components are the parts between slashes; empty parts and points do not count,
but a point at the very start does. The name of a file is the last component unless that leads
upwards, and its extension is what follows the last point of the name, when something stands before
that point.

* `Path.components` — the components.
* `Path.withExtension?` — the path with another extension.
* `Path.directory` — where the file is.
-/

import ElmCodec.Text.Quoted

namespace ElmCodec

/-- A path, as it is written. -/
structure Path where
  text : String
  deriving DecidableEq, Repr

namespace Path

/-- What is between the slashes of a path. -/
inductive Component where
  /-- The slash in front of an absolute path. -/
  | top
  /-- A point at the start. -/
  | current
  /-- Two points. -/
  | parent
  | name (text : String)
  deriving DecidableEq, Repr

/-- The parts between slashes. -/
def parts (path : Path) : List (List Char) := path.text.toList.splitOn '/'

/-- The component of a part that is not the first one. -/
def componentOf? (part : List Char) : Option Component :=
  if part.isEmpty || part == ['.'] then none
  else if part == ['.', '.'] then some .parent
  else some (.name (String.ofList part))

/-- The components of the first part; an empty one in front of a slash makes the path absolute. -/
def firstComponents (first : List Char) (more : Bool) : List Component :=
  if first.isEmpty && more then [.top]
  else if first == ['.'] then [.current]
  else (componentOf? first).toList

/-- The components of a path. -/
def components (path : Path) : List Component :=
  match path.parts with
  | [] => []
  | first :: rest => firstComponents first (!rest.isEmpty) ++ rest.filterMap componentOf?

/-! ### The name of the file -/

/-- Drops slashes, and points behind slashes, at the front of a path that is written backwards. -/
def dropIdle : List Char → List Char
  | '/' :: rest => dropIdle rest
  | '.' :: '/' :: rest => dropIdle rest
  | cs => cs

/-- A path, written backwards, without what does not count at its end. -/
def backwards (path : Path) : List Char := dropIdle path.text.toList.reverse

/-- The last part of a path that counts, and what stands before it, written backwards. -/
def lastPart (path : Path) : List Char × List Char :=
  (path.backwards.takeWhile (· != '/') |>.reverse, path.backwards.dropWhile (· != '/'))

/-- Whether a part is the name of a file. -/
def isFileName (part : List Char) : Bool :=
  !part.isEmpty && part != ['.'] && part != ['.', '.']

/-- A name as its stem and its extension, cut at the last point that has something before it. -/
def splitName (name : List Char) : List Char × Option (List Char) :=
  match name.reverse.dropWhile (· != '.') with
  | _ :: stem =>
    if stem.isEmpty then (name, none)
    else (stem.reverse, some (name.reverse.takeWhile (· != '.')).reverse)
  | [] => (name, none)

/-- The extension of the name of the file. -/
def extension? (path : Path) : Option String :=
  let part := path.lastPart.1
  if isFileName part then (splitName part).2.map String.ofList else none

/-- The path with an extension put behind the stem of the file's name; without a name, or for an
empty extension, nothing is put there. -/
def setExtension (path : Path) (extension : String) : Path :=
  let (part, before) := path.lastPart
  if isFileName part then
    let stem := before.reverse ++ (splitName part).1
    ⟨String.ofList (if extension.isEmpty then stem else stem ++ '.' :: extension.toList)⟩
  else path

/-- The path with the characters of its extension taken off its end. -/
def dropExtension (path : Path) : Path :=
  match path.extension? with
  | some old => ⟨String.ofList (path.text.toList.take (path.text.length - old.length))⟩
  | none => path

/-- The path with another extension. The old one is taken off before the new one is put behind the
stem. An extension with a slash would make another directory, so there is no such path. -/
def withExtension? (path : Path) (extension : String) : Option Path :=
  if '/' ∈ extension.toList then none else some (path.dropExtension.setExtension extension)

/-- The path without the extension. -/
def withoutExtension (path : Path) : Path := path.dropExtension.setExtension ""

/-! ### Directories -/

/-- The path of the directory that holds the file, empty if the path is the name alone. -/
def parent (path : Path) : Path :=
  let directory := (dropIdle path.lastPart.2).reverse
  if directory.isEmpty && path.text.toList.head? == some '/' then ⟨"/"⟩
  else ⟨String.ofList directory⟩

/-- The directory that holds the file. -/
def directory (path : Path) : Path := if path.parent.text.isEmpty then ⟨"."⟩ else path.parent

/-- The path of something in a directory. -/
def join (path : Path) (name : String) : Path :=
  if path.text.isEmpty then ⟨name⟩
  else if path.text.toList.getLast? == some '/' then ⟨path.text ++ name⟩
  else ⟨path.text ++ "/" ++ name⟩

/-- The path in quotes. -/
def quoted (path : Path) : String := Text.quote path.text

end Path

end ElmCodec
