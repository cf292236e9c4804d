/-
**Running commands.**

* `Invocation.run` — what an invocation prints, and its status; its work is done on a disk.
* `runArguments` — the same for arguments.
-/

import ElmCodec.Build.Check
import ElmCodec.Build.Tree
import ElmCodec.Command.Arguments
import ElmCodec.Manifest.Load

namespace ElmCodec

/-! ### Outcomes -/

/-- What a run prints, and its status. -/
structure Outcome where
  status : Nat := 0
  output : String := ""
  errors : String := ""
  deriving DecidableEq, Repr

namespace Outcome

/-- The outcome of a failure behind what was printed before. A failure that ends the whole run has a
status of its own. -/
def failed (before : Outcome) (failure : Failure) : Outcome where
  status := if failure.endsRun then 101 else 1
  output := before.output
  errors := before.errors ++ failure.report

/-- The outcome of work on several files: a failure if some of them failed. -/
def unlessFailed (before : Outcome) (failed total : Nat) : Outcome :=
  if failed = 0 then before else before.failed (.filesFailed failed total)

end Outcome

/-- Texts, each on lines of its own. -/
def onLines (texts : List String) : String := String.join (texts.map (· ++ "\n"))

/-! ### Summaries and reports -/

/-- The outcome of building a tree. -/
def Summary.outcome (summary : Summary) (heading : String) : Outcome :=
  let printed : Outcome := {
    output := onLines [heading, "Generated " ++ toString summary.generated.length ++ " of " ++
      toString summary.total ++ " modules"]
    errors := onLines (summary.failed.map fun (path, failure) =>
      "  ✗ " ++ path.text ++ ": " ++ failure.summary) }
  printed.unlessFailed summary.failed.length summary.total

/-- The outcome of checking files. -/
def checkOutcome (reports : List FileReport) (json : Bool) : Outcome :=
  let text := if json then onLines [(reportJson reports).pretty]
    else onLines (reports.map FileReport.line)
  let closing := if json || failedCount reports != 0 then "" else "\nAll schemas are valid!\n"
  Outcome.unlessFailed { output := text ++ closing } (failedCount reports) reports.length

/-! ### Runs -/

variable {m : Type → Type} [Monad m] [Disk m]

/-- Does what a command says. -/
def Command.run (manifest : Manifest) (time : Int) : Command → m Outcome
  | build input output moduleName => do
    match ← (buildSchema manifest input output moduleName time).run with
    | .ok job =>
      return {
        output := onLines ["Generated " ++ job.output.text ++ " (" ++ job.moduleName ++ ")"] }
    | .error failure => return Outcome.failed {} failure
  | buildAll root => do
    let root := root.getD manifest.sourceRoot
    let heading := "Building schemas under " ++ root.text
    match ← (buildTree manifest root time).run with
    | .ok summary => return summary.outcome heading
    | .error failure => return Outcome.failed { output := onLines [heading] } failure
  | check inputs json => do
    match ← (checkFiles manifest inputs).run with
    | .ok reports => return checkOutcome reports json
    | .error failure => return Outcome.failed {} failure

/-- Finds the manifest and does what the command says. -/
def Invocation.run (invocation : Invocation) (time : Int) : m Outcome := do
  match ← (Manifest.load invocation.manifest).run with
  | .ok manifest => invocation.command.run manifest time
  | .error failure => return Outcome.failed {} failure

/-! ### Arguments -/

/-- The text about the commands. -/
def helpText : String :=
  onLines ["Generate Elm JSON codecs from YAML schemas", "",
    "Usage: elmgen [-c PATH] [-v] COMMAND", "",
    "Commands:",
    "  build INPUT [OUTPUT] [-m NAME]  Generate one Elm module from a schema file",
    "  build-all [ROOT]                Generate modules for every schema file under a directory",
    "  check INPUT... [--json]         Validate schema files without writing anything", "",
    "Options:",
    "  -c, --config PATH  Path to elmgen.toml (default: ./elmgen.toml if present)",
    "  -v, --verbose      Enable debug logging",
    "  -h, --help         Print help",
    "  -V, --version      Print version"]

/-- The text about the version. -/
def versionText : String := "elmgen 0.3.0\n"

/-- The outcome when there is nothing to run. -/
def Stop.outcome : Stop → Outcome
  | help => { output := helpText }
  | version => { output := versionText }
  | usage error => { status := 2, errors := onLines ["error: " ++ error.message, "",
      "For more information, try '--help'."] }

/-- Does what arguments say. -/
def runArguments (arguments : List String) (time : Int) : m Outcome :=
  match Invocation.ofArguments arguments with
  | .ok invocation => invocation.run time
  | .error stop => return stop.outcome

end ElmCodec
