/-
**Finding the manifest of a project.**

* `Manifest.load` — the manifest at a given path, or the one in the working directory if there is
  one, or the default; its rules are checked.
-/

import ElmCodec.Disk
import ElmCodec.Manifest.Basic

namespace ElmCodec.Manifest

/-- The manifest in the working directory. -/
def standardPath : Path := ⟨"elmgen.toml"⟩

variable {m : Type → Type} [Monad m] [Disk m]

/-- The manifest of a file. -/
def read (path : Path) : ExceptT Failure m Manifest := do
  let text ← attempt (Disk.readText path) (.unreadableManifest path)
  ofExcept (parse text)

/-- The manifest of a project. -/
def load (given : Option Path) : ExceptT Failure m Manifest := do
  let manifest ← match given with
    | some path => read path
    | none => if ← liftM (Disk.isFile standardPath : m _) then read standardPath else pure {}
  ofExcept manifest.validate
  return manifest

end ElmCodec.Manifest
