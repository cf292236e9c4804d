/-
**The command line.**

The disk of the machine answers the questions of the commands; everything else is decided elsewhere.
-/

import ElmCodec.Command.Run
import Std.Time.DateTime.Timestamp

namespace ElmCodec

/-- What went wrong with a file. The machine numbers a directory in the place of a file as 21, with
or without a sign. -/
def DiskError.ofSystem : IO.Error → DiskError
  | .noFileOrDirectory .. => .notFound
  | .alreadyExists .. => .alreadyExists
  | .resourceBusy .. => .busy
  | .inappropriateType _ number _ =>
    if number = 21 || number + 21 = 0 then .isADirectory else .notADirectory
  | .permissionDenied _ 13 _ => .denied
  | error => .other (toString error)

/-- What an order comes to. -/
def answerOf {α : Type} (order : IO α) : IO (Except DiskError α) := do
  try return .ok (← order) catch error => return .error (.ofSystem error)

/-- The text of a file, as far as its bytes are one. -/
def readTextFile (path : Path) : IO (Except DiskError String) := do
  match ← answerOf (IO.FS.readBinFile ⟨path.text⟩) with
  | .error error => return .error error
  | .ok bytes =>
    match String.fromUTF8? bytes with
    | some text => return .ok text
    | none => return .error (.other "stream did not contain valid UTF-8")

/-- The type of what is at a path. There is nothing at the empty one. -/
def fileType? (path : Path) : IO (Option IO.FS.FileType) := do
  if path.text.isEmpty then return none
  match ← answerOf (do (← IO.currentDir) / path.text |>.metadata) with
  | .ok data => return some data.type
  | .error _ => return none

/-- What a walk through a directory comes across, by the names that lead there from a place above
it. -/
partial def surveyDirectory (directory : Path) (names : List String) : IO Survey := do
  match ← answerOf (do (← IO.currentDir) / directory.text |>.readDir) with
  | .error error => return { unreadable := [(names, error)] }
  | .ok entries =>
    let found ← entries.toList.mapM fun entry => do
      let names := names ++ [entry.fileName]
      match ← answerOf entry.path.symlinkMetadata with
      | .ok { type := .file, .. } => return { files := [names] }
      | .ok { type := .dir, .. } => surveyDirectory (directory.join entry.fileName) names
      | .ok _ => return {}
      | .error error => return { unreadable := [(names, error)] }
    return {
      files := found.flatMap Survey.files
      unreadable := found.flatMap Survey.unreadable }

/-- Makes a directory and all those that it is in. When a file stands in the way, it is in the place
of the directory itself or of one above it. -/
def makeAllDirectories (path : Path) : IO (Except DiskError Unit) := do
  match ← answerOf (IO.FS.createDirAll ⟨path.text⟩) with
  | .error .alreadyExists =>
    return .error (if (← fileType? path).isSome then .alreadyExists else .notADirectory)
  | made => return made

/-- Makes an empty file of a new name in a directory. -/
partial def makeTemporaryFile (directory : Path) : IO (Except DiskError Path) := do
  let path := directory.join (".tmp" ++ toString (← IO.rand 100000 999999))
  match ← answerOf (IO.FS.Handle.mk ⟨path.text⟩ .writeNew) with
  | .ok _ => return .ok path
  | .error .alreadyExists => makeTemporaryFile directory
  | .error error => return .error (.atPath path error)

/-- Commands run on the disk of the machine. -/
instance : Disk IO where
  isDirectory path := return (← fileType? path) matches some .dir
  isFile path := return (← fileType? path) matches some .file
  readText := readTextFile
  survey root := surveyDirectory root []
  makeDirectories := makeAllDirectories
  makeTemporary := makeTemporaryFile
  writeText path text := answerOf (IO.FS.writeFile ⟨path.text⟩ text)
  rename source target := answerOf (IO.FS.rename ⟨source.text⟩ ⟨target.text⟩)
  remove path := do let _ ← answerOf (IO.FS.removeFile ⟨path.text⟩)

end ElmCodec

/-- Does what the arguments say. -/
def main (arguments : List String) : IO UInt32 := do
  let now ← Std.Time.Timestamp.now
  let outcome ← ElmCodec.runArguments (m := IO) arguments now.toSecondsSinceUnixEpoch.val
  IO.print outcome.output
  IO.eprint outcome.errors
  return outcome.status.toUInt32
