/-
**Building one schema.**

A job says which schema becomes which module in which file. What the caller leaves open follows from
the path of the schema: the file of the module has the same path with another extension, and the
name of the module is that path below the source root, with points for slashes.

* `Job.plan` — the job for a schema.
* `Job.generate` — the text of the module, given that of the schema.
* `Job.execute` — reads the schema and writes the module.
* `writeAtomically` — writes a file as a whole or not at all.
* `buildSchema` — plans and executes.
-/

import ElmCodec.Codec.Module
import ElmCodec.Disk
import ElmCodec.Manifest.Basic
import ElmCodec.Schema.Document

namespace ElmCodec

/-! ### Names of modules -/

/-- The components of a path, without the point at its start. -/
def Path.normalized (path : Path) : List Path.Component := path.components.filter (· != .current)

/-- The components of a path below a directory, or all if the path is not below it. -/
def Path.relativeTo (path root : Path) : List Path.Component :=
  let whole := path.normalized
  let above := root.normalized
  if above.isPrefixOf whole then whole.drop above.length else whole

/-- The name of a component. -/
def Path.Component.name? : Path.Component → Option String
  | name text => some text
  | _ => none

/-- The name of the module in a file: the names below the source root with points between them, if
they make one. -/
def deriveModuleName (output sourceRoot : Path) : Option String := do
  let names ← (output.withoutExtension.relativeTo sourceRoot).mapM Path.Component.name?
  let name := String.intercalate "." names
  if Elm.isModuleName name then some name else none

/-! ### Jobs -/

/-- One schema and where its module goes. -/
structure Job where
  input : Path
  output : Path
  moduleName : String
  deriving DecidableEq

/-- The file of the module of a schema. -/
def outputPath (manifest : Manifest) (input : Path) : Except Failure Path :=
  match input.withExtension? manifest.outputExtension with
  | some output => .ok output
  | none => .error (.separatorInExtension manifest.outputExtension)

namespace Job

/-- The job for a schema; what is not given is derived. -/
def plan (manifest : Manifest) (input : Path) (output : Option Path) (moduleName : Option String) :
    Except Failure Job := do
  let output ← match output with
    | some output => pure output
    | none => outputPath manifest input
  match moduleName with
  | some name =>
    if Elm.isModuleName name then return { input, output, moduleName := name }
    else .error (.notAModuleOption name)
  | none =>
    match deriveModuleName output manifest.sourceRoot with
    | some name => return { input, output, moduleName := name }
    | none => .error (.noModuleName output manifest.sourceRoot)

/-- The text of the module, given that of the schema. -/
def generate (job : Job) (imports : ImportModules) (time : Int) (source : String) :
    Except Failure String := do
  let schema ← (Schema.ofYaml source).mapError (.invalidSchema job.input)
  (schema.emit imports job.moduleName time).mapError (.notGenerated job.moduleName)

end Job

/-! ### On a disk -/

variable {m : Type → Type} [Monad m] [Disk m]

/-- Writes a file by way of a temporary one in the same directory, which then takes its place. When
something goes wrong the temporary file is removed. -/
def writeAtomically (path : Path) (text : String) : ExceptT Failure m Unit := do
  let directory := path.directory
  attempt (Disk.makeDirectories directory) (.noDirectory directory)
  let temporary ← attempt (Disk.makeTemporary directory) (.noTemporary directory)
  let written ← liftM (Disk.writeText temporary text : m _)
  let moved ← match written with
    | .ok () => liftM (Disk.rename temporary path : m _)
    | .error error => pure (.error (.atPath temporary error))
  match moved with
  | .ok () => return ()
  | .error error =>
    liftM (Disk.remove temporary : m _)
    throw (.notWritten path error)

namespace Job

/-- Reads the schema and makes the text of the module. -/
def render (job : Job) (imports : ImportModules) (time : Int) : ExceptT Failure m String := do
  let source ← attempt (Disk.readText job.input) (.unreadableSchema job.input)
  ofExcept (job.generate imports time source)

/-- Reads the schema and writes the module. -/
def execute (job : Job) (imports : ImportModules) (time : Int) : ExceptT Failure m Unit := do
  let text ← job.render imports time
  writeAtomically job.output text

end Job

/-- Builds a schema. What is not given is derived. The result is the job that was done. -/
def buildSchema (manifest : Manifest) (input : Path) (output : Option Path)
    (moduleName : Option String) (time : Int) : ExceptT Failure m Job := do
  let job ← ofExcept (Job.plan manifest input output moduleName)
  job.execute manifest.imports time
  return job

end ElmCodec
