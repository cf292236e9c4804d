/-
**Manifests: how a project is built.**

```toml
[generator]
source_root = "src"
schema_extension = "yaml"
output_extension = "elm"
log_level = "info"

[imports]
decode_extra = "Internal.Tools.DecodeExtra"
```

Every key may be left out. A section is a table, or an array of the values of its keys in their
order.

* `Manifest.parse` — the manifest of a text.
* `Manifest.validate` — the rules on its values.
-/

import ElmCodec.Codec.Imports
import ElmCodec.Failure
import ElmCodec.LogFilter
import ElmCodec.Toml.Document

namespace ElmCodec

/-- A manifest. -/
structure Manifest where
  /-- The directory that names of modules are relative to. -/
  sourceRoot : Path := ⟨"src"⟩
  schemaExtension : String := "yaml"
  outputExtension : String := "elm"
  logFilter : String := "info"
  imports : ImportModules := {}
  deriving DecidableEq

namespace Manifest

/-! ### Reading -/

/-- The text of a value that may be missing. -/
def textOf : Option Toml.Value → Option (Option String)
  | none => some none
  | some (.string text) => some (some text)
  | some _ => none

/-- The texts of the keys of a section, each of which may be missing. -/
def sectionTexts (keys : List String) : Toml.Value → Option (List (Option String))
  | .table _ entries => keys.mapM fun key => textOf (entries.lookup key)
  | .array items | .tables items => (List.range keys.length).mapM fun index => textOf items[index]?
  | _ => none

/-- The texts of the keys of a section that may be missing itself. -/
def readSection (name : String) (keys : List String) (document : Toml.Entries) :
    Option (List (Option String)) :=
  match document.lookup name with
  | none => some (keys.map fun _ => none)
  | some value => sectionTexts keys value

/-- The manifest of the entries of a document. -/
def ofEntries? (document : Toml.Entries) : Option Manifest := do
  let default : Manifest := {}
  let generator ← readSection "generator"
    ["source_root", "schema_extension", "output_extension", "log_level"] document
  let imports ← readSection "imports" (default.imports.entries.map (·.1)) document
  match generator, imports with
  | [sourceRoot, schemaExtension, outputExtension, logFilter],
    [decodeExtra, encodeExtra, timestamp, enums] =>
    return {
      sourceRoot := (sourceRoot.map Path.mk).getD default.sourceRoot
      schemaExtension := schemaExtension.getD default.schemaExtension
      outputExtension := outputExtension.getD default.outputExtension
      logFilter := logFilter.getD default.logFilter
      imports :=
        { decodeExtra := decodeExtra.getD default.imports.decodeExtra
          encodeExtra := encodeExtra.getD default.imports.encodeExtra
          timestamp := timestamp.getD default.imports.timestamp
          enums := enums.getD default.imports.enums } }
  | _, _ => none

/-- The manifest of a text. -/
def parse (text : String) : Except Failure Manifest :=
  match (Toml.parse? text).bind ofEntries? with
  | some manifest => .ok manifest
  | none => .error .invalidManifest

/-! ### Rules -/

/-- Refuses an extension that starts with a point. -/
def checkExtension (extension : String) : Except Failure Unit :=
  if extension.toList.head? = some '.' then .error (.pointInExtension extension) else .ok ()

/-- Refuses a manifest that breaks a rule. -/
def validate (manifest : Manifest) : Except Failure Unit := do
  if manifest.schemaExtension.isEmpty then throw .emptySchemaExtension
  if manifest.outputExtension.isEmpty then throw .emptyOutputExtension
  if manifest.schemaExtension = manifest.outputExtension then
    throw (.sameExtensions manifest.schemaExtension)
  checkExtension manifest.schemaExtension
  checkExtension manifest.outputExtension
  if !LogFilter.isValid manifest.logFilter then throw (.invalidLogFilter manifest.logFilter)
  manifest.imports.validate.mapError .invalidImport

end Manifest

end ElmCodec
