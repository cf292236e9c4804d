/-
**Running commands on a file tree.**

* `FileTree.readText`, `FileTree.makeDirectories`, `FileTree.makeTemporary`, `FileTree.writeText`,
  `FileTree.rename`, `FileTree.remove` — the orders, as functions of trees.
-/

import ElmCodec.Disk
import ElmCodec.FileTree.Basic

namespace ElmCodec

namespace FileTree

/-- Whether there is a directory at a path. -/
def isDirectory (tree : FileTree) (path : Path) : Bool :=
  match tree.look path with
  | .ok .directory => true
  | _ => false

/-- Whether there is a regular file at a path. -/
def isFile (tree : FileTree) (path : Path) : Bool :=
  match tree.look path with
  | .ok (.file _) => true
  | _ => false

/-- What is in the file at a path. -/
def contentOf (tree : FileTree) (path : Path) : Except DiskError Content := do
  match ← tree.look path with
  | .file content => return content
  | .directory => .error .isADirectory

/-- The text of the file at a path. -/
def readText (tree : FileTree) (path : Path) : Except DiskError String := do
  (← tree.contentOf path).read

/-- What is left of a location behind the names of a directory above it. -/
def below? : Location → Location → Option Location
  | [], location => some location
  | _ :: _, [] => none
  | name :: rest, first :: location => if name = first then below? rest location else none

/-- Whether a walk from a directory comes to what names lead to: every directory on the way can be
listed. -/
def canReach (tree : FileTree) : Location → List String → Bool
  | _, [] => true
  | here, name :: rest =>
    (tree.refusalsAt here).listing.isNone && canReach tree (here ++ [name]) rest

/-- What a walk through the directory at a path comes across. -/
def survey (tree : FileTree) (path : Path) : Survey :=
  match tree.locate path with
  | .ok base =>
    let reached := fun locations => (locations.filterMap (below? base)).filter (tree.canReach base)
    { files := reached tree.files
      unreadable := (reached tree.directories).filterMap fun names =>
        (tree.refusalsAt (base ++ names)).listing.map fun error => (names, error) }
  | .error _ => {}

/-! ### Directories -/

/-- Makes the directories that parts lead through. -/
def makeAlong : Location → List String → FileTree → Except DiskError Unit × FileTree
  | _, [], tree => (.ok (), tree)
  | here, part :: rest, tree =>
    match step here part with
    | none => (.error .notFound, tree)
    | some next =>
      match tree.entry? next with
      | some .directory => makeAlong next rest tree
      | some (.file _) =>
        (.error (if rest.all isIdle then .alreadyExists else .notADirectory), tree)
      | none =>
        match (tree.refusalsAt here).changing with
        | some error => (.error error, tree)
        | none => makeAlong next rest (tree.insert next .directory)

/-- Makes a directory and all those that it is in. -/
def makeDirectories (tree : FileTree) (path : Path) : Except DiskError Unit × FileTree :=
  if isOutside path then (.error .notFound, tree) else makeAlong [] (partsOf path) tree

/-! ### Files -/

/-- A name that is longer than all in a tree. How much longer is drawn. -/
def freshName (tree : FileTree) : String :=
  let lengths := tree.entries.keys.flatMap fun location => location.map String.length
  ".tmp" ++ String.ofList (List.replicate (lengths.foldl max 0 + tree.draw) '0')

/-- Makes an empty file of a new name in a directory. -/
def makeTemporary (tree : FileTree) (directory : Path) : Except DiskError Path × FileTree :=
  let path := directory.join tree.freshName
  match tree.look directory, tree.locate directory with
  | .ok .directory, .ok location =>
    match (tree.refusalsAt location).changing with
    | some error => (.error (.atPath path error), tree)
    | none => (.ok path, tree.insert (location ++ [tree.freshName]) (.file ""))
  | .ok _, _ => (.error (.atPath path .notADirectory), tree)
  | .error error, _ => (.error (.atPath path error), tree)

/-- Gives the file at a path another text. -/
def writeText (tree : FileTree) (path : Path) (text : String) : Except DiskError Unit × FileTree :=
  match tree.look path, tree.locate path with
  | .ok (.file _), .ok location =>
    match (tree.refusalsAt location.dropLast).ofText text with
    | some error => (.error error, tree)
    | none => (.ok (), tree.insert location (.file text))
  | .ok _, _ => (.error .isADirectory, tree)
  | .error error, _ => (.error error, tree)

/-- The parts of a path without the slashes at its end, and whether there are any. -/
def endOf (path : Path) : List String × Bool :=
  let parts := partsOf path
  let kept := (parts.reverse.dropWhile (· == "")).reverse
  (kept, kept.length < parts.length)

/-- The location where a file can be put by a path: in a directory that is there, under a name. -/
def destination (tree : FileTree) (path : Path) : Except DiskError Location := do
  if isOutside path then throw .notFound
  let (parts, slash) := endOf path
  let here ← walk tree [] parts.dropLast
  match tree.entry? here, parts.getLast? with
  | none, _ | _, none => throw .notFound
  | some (.file _), _ => throw .notADirectory
  | some .directory, some name =>
    if name == "." || name == ".." then throw .busy
    if slash then throw .notADirectory
    return here ++ [name]

/-- Moves a file to a path, in place of a file that is there. -/
def rename (tree : FileTree) (source target : Path) : Except DiskError Unit × FileTree :=
  match tree.look source, tree.locate source, tree.destination target with
  | .ok (.file content), .ok location, .ok goal =>
    match (tree.refusalsAt location.dropLast).changing,
      (tree.refusalsAt goal.dropLast).changing with
    | some error, _ | none, some error => (.error error, tree)
    | none, none =>
      if tree.entry? goal = some .directory then (.error .isADirectory, tree)
      else (.ok (), (tree.erase location).insert goal (.file content))
  | .ok .directory, _, _ => (.error .isADirectory, tree)
  | .error error, _, _ | _, .error error, _ | _, _, .error error => (.error error, tree)

/-- Removes the file at a path. -/
def remove (tree : FileTree) (path : Path) : FileTree :=
  match tree.look path, tree.locate path with
  | .ok (.file _), .ok location =>
    if (tree.refusalsAt location.dropLast).changing.isNone then tree.erase location else tree
  | _, _ => tree

end FileTree

/-- Commands run on a file tree as on a disk. -/
instance : Disk (StateM FileTree) where
  isDirectory path := return (← get).isDirectory path
  isFile path := return (← get).isFile path
  readText path := return (← get).readText path
  survey path := return (← get).survey path
  makeDirectories path := modifyGet (·.makeDirectories path)
  makeTemporary path := modifyGet (·.makeTemporary path)
  writeText path text := modifyGet (·.writeText path text)
  rename source target := modifyGet (·.rename source target)
  remove path := modify (·.remove path)

end ElmCodec
