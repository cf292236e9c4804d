/-
**What commands ask of a disk.**

Commands read and write files through these questions and orders only, so a command can be run on
the real disk and on a file tree that is a value.
-/

import ElmCodec.Failure

namespace ElmCodec

/-- What a walk through a directory comes across, each by the names that lead to it. -/
structure Survey where
  /-- The regular files. -/
  files : List (List String) := []
  /-- The directories that cannot be listed, and why. -/
  unreadable : List (List String × DiskError) := []

/-- The questions and orders about files, in a monad that answers them. -/
class Disk (m : Type → Type) where
  /-- Whether there is a directory at a path. -/
  isDirectory : Path → m Bool
  /-- Whether there is a regular file at a path. -/
  isFile : Path → m Bool
  /-- The text of a file. -/
  readText : Path → m (Except DiskError String)
  /-- Walks through a directory and all that are in it. -/
  survey : Path → m Survey
  /-- Makes a directory and all those that it is in, as far as they are missing. -/
  makeDirectories : Path → m (Except DiskError Unit)
  /-- Makes an empty file of a new name in a directory. An error names the path that was tried. -/
  makeTemporary : Path → m (Except DiskError Path)
  /-- Gives a file another text. -/
  writeText : Path → String → m (Except DiskError Unit)
  /-- Moves a file to another path, in place of a file that is there. -/
  rename : Path → Path → m (Except DiskError Unit)
  /-- Removes a file, if it is there. -/
  remove : Path → m Unit

/-- An order whose error becomes a failure. -/
def attempt {m : Type → Type} [Monad m] {α : Type} (order : m (Except DiskError α))
    (failure : DiskError → Failure) : ExceptT Failure m α :=
  ExceptT.mk do return (← order).mapError failure

end ElmCodec
