/-
**Checking schemas without writing anything.**

A schema is checked by making its module and throwing it away.

* `checkSource` — the number of records of a schema whose module can be made.
* `checkFiles` — the report on some files.
-/

import ElmCodec.Build.Job
import ElmCodec.Text.JsonText

namespace ElmCodec

/-- Why a file does not pass. -/
inductive CheckError where
  | unreadable (cause : DiskError)
  | refused (cause : SchemaError)
  deriving DecidableEq

namespace CheckError

/-- The name of the kind of an error. -/
def kind : CheckError → String
  | unreadable _ => "io"
  | refused cause => cause.kind.name

/-- The number of the kind of an error. -/
def code : CheckError → Nat
  | unreadable _ => 0
  | refused cause => cause.kind.code

/-- The text of an error. -/
def message : CheckError → String
  | unreadable cause => cause.message
  | refused cause => cause.message

end CheckError

/-- The report on one file: the number of its records if it passes. -/
structure FileReport where
  path : Path
  result : Except CheckError Nat

/-- Whether a file passes. -/
def FileReport.passes (report : FileReport) : Bool := report.result.isOk

/-- The number of files that do not pass. -/
def failedCount (reports : List FileReport) : Nat := (reports.filter (!·.passes)).length

/-- The number of records of a schema whose module can be made. -/
def checkSource (imports : ImportModules) (moduleName source : String) :
    Except SchemaError Nat := do
  let schema ← Schema.ofYaml source
  let _ ← schema.emit imports moduleName 0
  return schema.records.size

/-- The name of a module when none can be derived. It does not matter, for the module is thrown
away. -/
def fallbackModuleName : String := "Main"

/-- The name under which a schema is checked. -/
def checkName (manifest : Manifest) (path : Path) : Except Failure String :=
  (outputPath manifest path).map fun output =>
    (deriveModuleName output manifest.sourceRoot).getD fallbackModuleName

variable {m : Type → Type} [Monad m] [Disk m]

/-- The report on a file. -/
def checkFile (manifest : Manifest) (path : Path) : ExceptT Failure m FileReport := do
  match ← liftM (Disk.readText path : m _) with
  | .error error => return { path, result := .error (.unreadable error) }
  | .ok source =>
    let name ← ofExcept (checkName manifest path)
    return { path, result := (checkSource manifest.imports name source).mapError .refused }

/-- The reports on some files, in their order. -/
def checkFiles (manifest : Manifest) (paths : List Path) : ExceptT Failure m (List FileReport) :=
  paths.mapM (checkFile manifest)

/-! ### Reports as texts -/

/-- The report on a file as a line. -/
def FileReport.line (report : FileReport) : String :=
  match report.result with
  | .ok records => "✓ " ++ report.path.text ++ " (" ++ toString records ++ " records)"
  | .error error => "✗ " ++ report.path.text ++ ": " ++ error.message

/-- The report on a file as JSON. -/
def FileReport.json (report : FileReport) : JsonValue :=
  .object ([("path", .string report.path.text), ("ok", .bool report.passes)] ++
    match report.result with
    | .ok records => [("records", .number records)]
    | .error error =>
      [("error", .object [("kind", .string error.kind), ("code", .number error.code),
        ("message", .string error.message)])])

/-- The reports on some files as JSON. -/
def reportJson (reports : List FileReport) : JsonValue :=
  .object [("files", .array (reports.map FileReport.json)),
    ("failed", .number (failedCount reports))]

end ElmCodec
