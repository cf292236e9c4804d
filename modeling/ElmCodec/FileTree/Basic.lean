/-
**File trees as values.**

A tree holds files and directories by their locations, which are the names that lead to them from
the working directory. Every path is taken from there; what lies outside of the tree is not there.
A tree also says what the system refuses: files that cannot be read, and directories that cannot be
listed, or changed, or whose files cannot be filled.

* `FileTree.locate` — the location of a path.
* `FileTree.content?` — what is in a file, by its location.
* `FileTree.refusalsAt` — what is refused in a directory.
* `FileTree.insert`, `FileTree.erase` — a tree with an entry more or less.
-/

import ElmCodec.Failure
import ElmCodec.OrderedMap

namespace ElmCodec

/-- The names that lead to a place. -/
abbrev Location := List String

/-! ### Entries -/

/-- What is in a file. -/
inductive Content where
  | text (letters : String)
  /-- Bytes that are no text, or that must not be read, and the error of trying. -/
  | sealed (bytes : List UInt8) (error : DiskError)
  deriving DecidableEq, Repr

instance : Coe String Content := ⟨.text⟩

/-- What reading a file gives. -/
def Content.read : Content → Except DiskError String
  | text letters => .ok letters
  | sealed _ error => .error error

/-- What is at a location. -/
inductive Entry where
  | file (content : Content)
  | directory
  deriving DecidableEq, Repr

/-- What is refused in a directory, and with which errors. -/
structure Refusals where
  /-- Listing its entries. -/
  listing : Option DiskError := none
  /-- Adding entries and taking them away. -/
  changing : Option DiskError := none
  /-- Filling a file with more bytes than this. -/
  filling : Option (Nat × DiskError) := none
  deriving DecidableEq, Repr

/-- Why a text is refused. -/
def Refusals.ofText (refusals : Refusals) (text : String) : Option DiskError :=
  match refusals.filling with
  | some (most, error) => if most < text.utf8ByteSize then some error else none
  | none => none

/-! ### Trees -/

/-- A file tree, without the working directory itself. -/
structure FileTree where
  entries : OrderedMap Location Entry := OrderedMap.empty
  /-- What is refused, by directories. -/
  refusals : OrderedMap Location Refusals := OrderedMap.empty
  /-- The number that the names of temporary files come from. Every run draws another one. -/
  draw : Nat := 0
  deriving DecidableEq

namespace FileTree

/-- What is at a location. The working directory is always there. -/
def entry? (tree : FileTree) : Location → Option Entry
  | [] => some .directory
  | name :: rest => tree.entries.get? (name :: rest)

/-- What is in the file at a location. -/
def content? (tree : FileTree) (location : Location) : Option Content :=
  match tree.entry? location with
  | some (.file content) => some content
  | _ => none

/-- What is refused in the directory at a location. -/
def refusalsAt (tree : FileTree) (location : Location) : Refusals :=
  (tree.refusals.get? location).getD {}

/-- The tree with an entry at a location. -/
def insert (tree : FileTree) (location : Location) (entry : Entry) : FileTree :=
  { tree with entries := tree.entries.insert location entry }

/-- The tree without what is at a location. -/
def erase (tree : FileTree) (location : Location) : FileTree :=
  { tree with entries := tree.entries.erase location }

/-- The tree in another run. -/
def drawn (tree : FileTree) (draw : Nat) : FileTree := { tree with draw }

/-- The locations of the regular files, in their order. -/
def files (tree : FileTree) : List Location :=
  tree.entries.entries.filterMap fun (location, entry) =>
    match entry with
    | .file _ => some location
    | .directory => none

/-- The locations of the directories. -/
def directories (tree : FileTree) : List Location :=
  [] :: tree.entries.entries.filterMap fun (location, entry) =>
    match entry with
    | .file _ => none
    | .directory => some location

/-! ### Paths -/

/-- The parts of a path. -/
def partsOf (path : Path) : List String := path.parts.map String.ofList

/-- Whether a part leads nowhere. -/
def isIdle (part : String) : Bool := part == "" || part == "."

/-- The location that a part leads to. -/
def step (here : Location) (part : String) : Option Location :=
  if isIdle part then some here
  else if part == ".." then if here.isEmpty then none else some here.dropLast
  else some (here ++ [part])

/-- The location that parts lead to. Every part but the last has to be a directory that is there. -/
def walk (tree : FileTree) : Location → List String → Except DiskError Location
  | here, [] => .ok here
  | here, part :: rest =>
    match tree.entry? here, step here part with
    | none, _ => .error .notFound
    | some (.file _), _ => .error .notADirectory
    | some .directory, none => .error .notFound
    | some .directory, some next => walk tree next rest

/-- Whether a path leads out of the tree from the start. -/
def isOutside (path : Path) : Bool := path.text.isEmpty || path.text.toList.head? == some '/'

/-- The location of a path. There need not be anything. -/
def locate (tree : FileTree) (path : Path) : Except DiskError Location :=
  if isOutside path then .error .notFound else walk tree [] (partsOf path)

/-- What is at a path. -/
def look (tree : FileTree) (path : Path) : Except DiskError Entry := do
  match tree.entry? (← tree.locate path) with
  | some entry => return entry
  | none => .error .notFound

end FileTree

end ElmCodec
