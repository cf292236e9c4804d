/-
**Why a command fails.**

A failure has a text for each of its causes, the outermost one first: a file that cannot be read
because it is not there, a schema that is refused because of one of its types.

* `DiskError` — what can go wrong with files.
* `Failure` — the causes of failures.
* `Failure.chain` — the texts of a failure.
* `Failure.report` — how a failure that ends the program is printed.
-/

import ElmCodec.Path
import ElmCodec.Schema.Error

namespace ElmCodec

/-- What can go wrong with files. -/
inductive DiskError where
  | notFound
  | notADirectory
  | isADirectory
  | alreadyExists
  | busy
  | denied
  /-- Anything else, in the words of the system. -/
  | other (text : String)
  /-- What went wrong with a temporary file, which has a path that nobody chose. -/
  | atPath (path : Path) (cause : DiskError)
  deriving DecidableEq, Repr

/-- The text of an error with a file. -/
def DiskError.message : DiskError → String
  | notFound => "No such file or directory (os error 2)"
  | notADirectory => "Not a directory (os error 20)"
  | isADirectory => "Is a directory (os error 21)"
  | alreadyExists => "File exists (os error 17)"
  | busy => "Device or resource busy (os error 16)"
  | denied => "Permission denied (os error 13)"
  | other text => text
  | atPath path cause => cause.message ++ " at path " ++ path.quoted

/-- The causes of failures. -/
inductive Failure where
  /-- An output extension that would lead into another directory. It ends the whole run. -/
  | separatorInExtension (extension : String)
  | notAModuleOption (name : String)
  | noModuleName (output sourceRoot : Path)
  | unreadableSchema (path : Path) (cause : DiskError)
  | invalidSchema (path : Path) (cause : SchemaError)
  | notGenerated (moduleName : String) (cause : SchemaError)
  | noDirectory (directory : Path) (cause : DiskError)
  | noTemporary (directory : Path) (cause : DiskError)
  | notWritten (path : Path) (cause : DiskError)
  | rootNotADirectory (root : Path)
  | unreadableEntry (path : Path) (cause : DiskError)
  | filesFailed (failed total : Nat)
  | unreadableManifest (path : Path) (cause : DiskError)
  | invalidManifest
  | emptySchemaExtension
  | emptyOutputExtension
  | sameExtensions (extension : String)
  | pointInExtension (extension : String)
  | invalidLogFilter (filter : String)
  | invalidImport (cause : SchemaError)
  deriving DecidableEq

namespace Failure

/-- Whether a failure ends the whole run, and not only the work on one file. -/
def endsRun : Failure → Bool
  | separatorInExtension _ => true
  | _ => false

/-- The texts of a failure, the outermost cause first. -/
def chain : Failure → List String
  | separatorInExtension extension =>
    ["extension cannot contain path separators: " ++ Text.quote extension]
  | notAModuleOption name => ["--module " ++ name ++ " is not a valid Elm module name"]
  | noModuleName output sourceRoot =>
    ["Cannot derive an Elm module name from " ++ output.quoted ++ " relative to " ++
      sourceRoot.quoted ++ "; pass --module"]
  | unreadableSchema path cause => ["Failed to read schema: " ++ path.quoted, cause.message]
  | invalidSchema path cause => ["Invalid schema: " ++ path.quoted, cause.message]
  | notGenerated moduleName cause => ["Failed to generate " ++ moduleName, cause.message]
  | noDirectory directory cause =>
    ["Failed to create directory: " ++ directory.quoted, cause.message]
  | noTemporary directory cause =>
    ["Failed to create temporary file in " ++ directory.quoted, cause.message]
  | notWritten path cause => ["Failed to write " ++ path.quoted, cause.message]
  | rootNotADirectory root => ["Schema root " ++ root.quoted ++ " is not a directory"]
  | unreadableEntry path cause =>
    ["Failed to read directory entry",
      "IO error for operation on " ++ path.text ++ ": " ++ cause.message, cause.message]
  | filesFailed failed total =>
    [toString failed ++ " of " ++ toString total ++ " schema files failed"]
  | unreadableManifest path cause => ["Failed to read manifest: " ++ path.quoted, cause.message]
  | invalidManifest => ["Failed to parse manifest", "<toml>"]
  | emptySchemaExtension => ["generator.schema_extension cannot be empty"]
  | emptyOutputExtension => ["generator.output_extension cannot be empty"]
  | sameExtensions extension =>
    ["generator.schema_extension and generator.output_extension must differ (both are \"" ++
      extension ++ "\")"]
  | pointInExtension extension =>
    ["Extension \"" ++ extension ++ "\" should be given without a leading dot"]
  | invalidLogFilter filter => ["Invalid generator.log_level: " ++ filter, "<filter>"]
  | invalidImport cause => [cause.message]

/-- The texts of a failure on one line. -/
def summary (failure : Failure) : String := String.intercalate ": " failure.chain

/-- A text with an indent in front of every line but the first. -/
def indentLines (indent text : String) : String :=
  String.intercalate ("\n" ++ indent)
    ((text.toList.splitOn '\n').map String.ofList)

/-- The lines about the causes behind the outermost one. Several causes are numbered. -/
def causeLines : List String → List String
  | [] => []
  | [cause] => ["", "Caused by:", "    " ++ indentLines "    " cause]
  | causes =>
    ["", "Caused by:"] ++ causes.zipIdx.map fun (cause, index) =>
      let number := toString index
      String.ofList (List.replicate (5 - number.length) ' ') ++ number ++ ": " ++
        indentLines "       " cause

/-- How a failure that ends the program is printed. -/
def report (failure : Failure) : String :=
  match failure.chain with
  | [] => ""
  | outermost :: causes =>
    String.join ((("Error: " ++ outermost) :: causeLines causes).map (· ++ "\n"))

end Failure

end ElmCodec
