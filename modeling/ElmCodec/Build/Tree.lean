/-
**Building all schemas below a directory.**

* `discover` — the schemas, and what cannot be read on the way to them, in the order of the paths.
* `buildTree` — builds each of them; one that fails does not keep the others from being built.
-/

import ElmCodec.Build.Job

namespace ElmCodec

/-- What became of the schemas of a tree. -/
structure Summary where
  /-- The files of the modules. -/
  generated : List Path
  /-- What could not be read and the schemas that failed, and why. -/
  failed : List (Path × Failure)
  deriving DecidableEq

namespace Summary

/-- The number of modules and failures. -/
def total (summary : Summary) : Nat := summary.generated.length + summary.failed.length

/-- The summary of what could not be read and of what became of each schema. -/
def ofResults (unreadable : List (Path × Failure))
    (results : List (Path × Except Failure Path)) : Summary where
  generated := results.filterMap fun (_, result) => result.toOption
  failed := unreadable ++ results.filterMap fun (input, result) =>
    match result with
    | .ok _ => none
    | .error failure => some (input, failure)

end Summary

variable {m : Type → Type} [Monad m] [Disk m]

/-- The locations below a directory in their order, each once. -/
def sortLocations (locations : List (List String)) : List (List String) :=
  (OrderedMap.ofList (locations.map fun location => (location, ()))).keys

/-- What is found below a directory. -/
structure Discovery where
  /-- The schemas. -/
  files : List Path
  /-- The directories that cannot be listed, each with a failure. -/
  unreadable : List (Path × Failure)
  deriving DecidableEq

/-- What a walk through a directory finds: the files whose name has an extension, and what cannot be
read, both in the order of their paths. -/
def Discovery.ofSurvey (root : Path) (extension : String) (survey : Survey) : Discovery where
  files := ((sortLocations survey.files).map (·.foldl Path.join root)).filter
    (·.extension? == some extension)
  unreadable := (OrderedMap.ofList survey.unreadable).entries.map fun (names, cause) =>
    (names.foldl Path.join root, .unreadableEntry (names.foldl Path.join root) cause)

/-- Looks for the files below a directory whose name has an extension. -/
def discover (root : Path) (extension : String) : ExceptT Failure m Discovery := do
  if !(← liftM (Disk.isDirectory root : m _)) then throw (.rootNotADirectory root)
  return .ofSurvey root extension (← liftM (Disk.survey root : m _))

/-- Builds one schema of a tree. The result is the file of the module. -/
def buildFile (manifest : Manifest) (time : Int) (input : Path) :
    ExceptT Failure m (Path × Except Failure Path) := do
  match ← liftM (buildSchema manifest input none none time : ExceptT Failure m Job).run with
  | .ok job => return (input, .ok job.output)
  | .error failure => if failure.endsRun then throw failure else return (input, .error failure)

/-- Builds the schemas below a directory. -/
def buildTree (manifest : Manifest) (root : Path) (time : Int) : ExceptT Failure m Summary := do
  let found ← discover root manifest.schemaExtension
  return .ofResults found.unreadable (← found.files.mapM (buildFile manifest time))

end ElmCodec
