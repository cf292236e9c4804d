/-
**Writing a file in a directory that is there.**

The file is written as a whole or it is refused: the directory must not be changed, it does not take
the text, or a directory is in the place. Which of these it is depends on the directories of the
tree and on what it refuses, and not on the stage of a run. Only the name of the temporary file
does, and an error that tells it tells a name that nobody chose.

* `Failure.unnamed` — a failure without the name of a temporary file; `withoutNames` — an outcome.
* `FileTree.refusal?` — why a text is not put at a place.
* `FileTree.perform_writeAtomically_join` — **writing a file in a directory**, alone.
* `FileTree.plays_writeAtomically` — **the same while others do**.
-/

import ElmCodec.Proofs.Build.Job
import ElmCodec.Proofs.FileTree.Parts
import ElmCodec.Proofs.FileTree.Places

namespace ElmCodec

/-! ### Failures without names that nobody chose -/

/-- An error without the name of a temporary file. Of its path the directory is left. -/
def DiskError.unnamed : DiskError → DiskError
  | atPath path cause => atPath path.directory cause
  | error => error

/-- **A failure without the name of a temporary file.** -/
def Failure.unnamed : Failure → Failure
  | noTemporary directory cause => noTemporary directory cause.unnamed
  | notWritten path cause => notWritten path cause.unnamed
  | failure => failure

/-- Whether a failure ends the run is not a matter of names. -/
theorem Failure.endsRun_unnamed (failure : Failure) :
    failure.unnamed.endsRun = failure.endsRun := by
  cases failure <;> rfl

/-- An outcome without the names of temporary files. -/
def withoutNames {α : Type} (outcome : Except Failure α) : Except Failure α :=
  outcome.mapError Failure.unnamed

section Outcomes

variable {α β : Type} {outcome : Except Failure α}

theorem withoutNames_eq_ok_iff {value : α} : withoutNames outcome = .ok value ↔
    outcome = .ok value := by
  cases outcome <;> simp [withoutNames, Except.mapError]

theorem withoutNames_eq_error_iff {failure : Failure} : withoutNames outcome = .error failure ↔
    ∃ named, outcome = .error named ∧ named.unnamed = failure := by
  cases outcome <;> simp [withoutNames, Except.mapError]

theorem withoutNames_map (f : α → β) :
    withoutNames (outcome.map f) = (withoutNames outcome).map f := by
  cases outcome <;> rfl

end Outcomes

open FileTree

namespace FileTree

variable {tree : FileTree}

/-! ### Refusals -/

/-- **Why a text is not put at a place** in a directory, if it is not. -/
def refusal? (tree : FileTree) (path : Path) (directory : Location) (name text : String) :
    Option Failure :=
  match (tree.refusalsAt directory).changing, (tree.refusalsAt directory).ofText text with
  | some error, _ => some (.noTemporary path.directory (.atPath path.directory error))
  | none, some error => some (.notWritten path (.atPath path.directory error))
  | none, none =>
    if tree.entry? (directory ++ [name]) = some .directory then
      some (.notWritten path .isADirectory)
    else none

section Refusal

variable {path : Path} {directory : Location} {name text : String} {error : DiskError}

theorem refusal_of_changing (changing : (tree.refusalsAt directory).changing = some error) :
    tree.refusal? path directory name text =
      some (.noTemporary path.directory (.atPath path.directory error)) := by
  simp only [refusal?, changing]

theorem refusal_of_filling (changing : (tree.refusalsAt directory).changing = none)
    (filling : (tree.refusalsAt directory).ofText text = some error) :
    tree.refusal? path directory name text =
      some (.notWritten path (.atPath path.directory error)) := by
  simp only [refusal?, changing, filling]

theorem refusal_eq (changing : (tree.refusalsAt directory).changing = none)
    (filling : (tree.refusalsAt directory).ofText text = none) :
    tree.refusal? path directory name text =
      if tree.entry? (directory ++ [name]) = some .directory then
        some (.notWritten path .isADirectory)
      else none := by
  simp only [refusal?, changing, filling]

end Refusal

/-- No refusal ends the run. -/
theorem endsRun_of_refusal {path : Path} {directory : Location} {name text : String}
    {failure : Failure} (refused : tree.refusal? path directory name text = some failure) :
    failure.endsRun = false := by
  unfold refusal? at refused
  split at refused
  · obtain rfl := Option.some.inj refused
    rfl
  · obtain rfl := Option.some.inj refused
    rfl
  · split at refused
    · obtain rfl := Option.some.inj refused
      rfl
    · cases refused

/-- No directory is in the place of a text that is put there. -/
theorem free_of_taken {path : Path} {directory : Location} {name text : String}
    (taken : tree.refusal? path directory name text = none) :
    tree.entry? (directory ++ [name]) ≠ some .directory := by
  unfold refusal? at taken
  split at taken
  · cases taken
  · cases taken
  · split at taken
    · cases taken
    · assumption

/-- The same is refused at every stage of a run. -/
theorem StageOf.refusal_eq {extension : String} {stage : FileTree}
    (ofStage : StageOf extension tree stage) (path : Path) (directory : Location)
    (name text : String) :
    stage.refusal? path directory name text = tree.refusal? path directory name text := by
  unfold refusal?
  rw [ofStage.refusalsAt]
  simp only [ofStage.directories]

/-- What happens to the path of a file in a directory does not matter to the name of a temporary
file beside it. -/
theorem unnamed_atPath {path : Path} {last : String} (proper : Path.isFileName last.toList = true)
    (plain : '/' ∉ last.toList) (error : DiskError) :
    (DiskError.atPath (path.directory.join last) error).unnamed = .atPath path.directory error := by
  rw [DiskError.unnamed, Path.directory_join_directory path plain proper]

/-! ### Alone -/

/-- **Writing a file in a directory that is there** adds the file, or it is refused and nothing
changes. -/
theorem perform_writeAtomically_join {path : Path} {directory : Location} {name : String}
    (located : tree.locate path = .ok directory)
    (isDirectory : tree.entry? directory = some .directory)
    (proper : Path.isFileName name.toList = true) (plain : '/' ∉ name.toList) (text : String) :
    match tree.refusal? (path.join name) directory name text with
    | some failure => ∃ named, named.unnamed = failure ∧
        perform (writeAtomically (path.join name) text) tree = (.error named, tree)
    | none => perform (writeAtomically (path.join name) text) tree =
        (.ok (), tree.insert (directory ++ [name]) (.file text)) := by
  have holder := locate_directory_join located isDirectory proper plain
  have made := makeDirectories_eq holder isDirectory
  cases changing : (tree.refusalsAt directory).changing with
  | some error =>
    unfold writeAtomically
    simp only [refusal_of_changing changing, perform_bind, perform_attempt, run_makeDirectories,
      made, Except.mapError, run_makeTemporary,
      makeTemporary_of_refused holder isDirectory changing]
    exact ⟨_, by rw [Failure.unnamed, unnamed_atPath isFileName_freshName freshName_plain], rfl⟩
  | none =>
    obtain ⟨held, began, holds⟩ := WithTemporary.start holder isDirectory changing
    rw [perform_writeAtomically_of_made made began]
    cases filling : (tree.refusalsAt directory).ofText text with
    | some error =>
      rw [refusal_of_filling changing filling, holds.writeText_of_refused filling]
      dsimp only
      rw [holds.remove_eq]
      exact ⟨_, by rw [Failure.unnamed, unnamed_atPath isFileName_freshName freshName_plain], rfl⟩
    | none =>
      obtain ⟨full, written, holds⟩ := holds.exists_writeText filling
      have goes := destination_join (holds.puts.directories.locate located)
        (holds.puts.directories directory isDirectory) proper plain
      have changeable : (full.refusalsAt directory).changing = none := by
        rw [holds.refusalsAt, changing]
      have taken : full.entry? (directory ++ [name]) = some .directory ↔
          tree.entry? (directory ++ [name]) = some .directory := by
        rw [holds.whole, entry?_insert (by simp)]
        split
        · next here => simp [here, holds.free]
        · rfl
      rw [refusal_eq changing filling, written]
      dsimp only
      rw [rename_eq holds.names holds.found goes changeable changeable, holds.erase_eq]
      by_cases isTaken : tree.entry? (directory ++ [name]) = some .directory
      · rw [if_pos isTaken, if_pos (taken.mpr isTaken)]
        dsimp only
        rw [holds.remove_eq]
        exact ⟨_, rfl, rfl⟩
      · rw [if_neg isTaken, if_neg (mt taken.mp isTaken)]

/-! ### While others do -/

section Plays

variable {α β γ : Type} {extension : String} {view : Except Failure β → γ} {part : Part γ}
variable {holding : Holding}

/-- An order whose error becomes a failure. -/
theorem plays_attempt {run : FileTree → Except DiskError α × FileTree}
    {failure : DiskError → Failure} {next : α → ExceptT Failure Steps β}
    (each : ∀ stage, Relies extension tree stage holding →
      ∃ other, Does part stage holding (run stage).2 other ∧
        Steps.Plays extension tree view part (match (run stage).1 with
          | .ok value => (next value).run
          | .error error => .done (.error (failure error))) other) :
    Steps.Plays extension tree view part
      (attempt (Steps.order run) failure >>= next).run holding := by
  intro stage relies
  obtain ⟨other, did, later⟩ := each stage relies
  refine ⟨other, did, ?_⟩
  show Steps.Plays extension tree view part
    ((ExceptT.bindCont next ((run stage).1.mapError failure) : Steps _)) other
  cases outcome : (run stage).1 with
  | ok value => rw [outcome] at later; exact later
  | error error => rw [outcome] at later; exact later

/-- An order whose outcome is looked at. -/
theorem plays_order {run : FileTree → α × FileTree} {next : α → ExceptT Failure Steps β}
    (each : ∀ stage, Relies extension tree stage holding →
      ∃ other, Does part stage holding (run stage).2 other ∧
        Steps.Plays extension tree view part (next (run stage).1).run other) :
    Steps.Plays extension tree view part
      ((liftM (Steps.order run) : ExceptT Failure Steps α) >>= next).run holding :=
  each

end Plays

section Plays

variable {α : Type} {extension : String} {part : Part (Except Failure α)}

/-- **When something goes wrong** the temporary file is removed and the failure is passed on. -/
theorem plays_dropped {temporary : Path} {directory : Location} {last old : String}
    (names : ∀ {stage}, StageOf extension tree stage → Names stage temporary directory last)
    (changing : (tree.refusalsAt directory).changing = none) {failure : Failure}
    (none : part.text? = none) (value : part.value = .error failure.unnamed)
    {next : Unit → ExceptT Failure Steps α} :
    Steps.Plays extension tree withoutNames part
      ((do
        liftM (Steps.order fun tree => ((), tree.remove temporary))
        throw failure : ExceptT Failure Steps Unit) >>= next).run
      (.temporary (directory ++ [last]) old) := by
  rw [bind_assoc]
  refine plays_order fun stage relies => ?_
  rw [remove_eq (names relies.ofStage) (relies.there _ _ rfl)
    (by rw [relies.ofStage.refusalsAt, changing])]
  exact ⟨_, .drop, value.symm, by rw [none]; rfl⟩

variable {path : Path} {directory : Location} {name text : String}
variable (located : tree.locate path = .ok directory)
variable (isDirectory : tree.entry? directory = some .directory)
variable (proper : Path.isFileName name.toList = true) (plain : '/' ∉ name.toList)
variable (goal : part.goal = directory ++ [name]) {next : Unit → ExceptT Failure Steps α}
variable (refused : ∀ failure, tree.refusal? (path.join name) directory name text = some failure →
  part.text? = none ∧ part.value = .error failure)
variable (written : tree.refusal? (path.join name) directory name text = none →
  part.text? = some text ∧ (next ()).run.Plays extension tree withoutNames part .placed)
include located isDirectory proper plain goal refused written

/-- **A temporary file takes its place**, unless a directory is there. -/
theorem plays_moved {temporary : Path} {last : String}
    (names : ∀ {stage}, StageOf extension tree stage → Names stage temporary directory last)
    (changing : (tree.refusalsAt directory).changing = none)
    (filling : (tree.refusalsAt directory).ofText text = none) :
    Steps.Plays extension tree withoutNames part
      ((do
        match ← liftM (Steps.order fun tree => tree.rename temporary (path.join name)) with
        | .ok () => return ()
        | .error error =>
          liftM (Steps.order fun tree => ((), tree.remove temporary))
          throw (.notWritten (path.join name) error) : ExceptT Failure Steps Unit) >>= next).run
      (.temporary (directory ++ [last]) text) := by
  rw [bind_assoc]
  refine plays_order fun stage relies => ?_
  have goes := destination_join (relies.ofStage.keepsDirectories.locate located)
    (relies.ofStage.keepsDirectories _ isDirectory) proper plain
  have changeable : (stage.refusalsAt directory).changing = none := by
    rw [relies.ofStage.refusalsAt, changing]
  rw [rename_eq (names relies.ofStage) (relies.there _ _ rfl) goes changeable changeable]
  by_cases taken : tree.entry? (directory ++ [name]) = some .directory
  · rw [if_pos ((relies.ofStage.directories _).mpr taken)]
    obtain ⟨none, value⟩ := refused _ ((refusal_eq changing filling).trans (if_pos taken))
    refine ⟨_, .look, plays_dropped names changing none ?_⟩
    exact value
  · rw [if_neg (mt (relies.ofStage.directories _).mp taken)]
    obtain ⟨some, later⟩ := written ((refusal_eq changing filling).trans (if_neg taken))
    refine ⟨.placed, ?_, later⟩
    rw [← goal]
    exact .place some

/-- **Writing a file in a directory that is there** plays a part, whatever others do: a temporary
file is made and filled, and it takes its place or is removed. -/
theorem plays_writeAtomically : Steps.Plays extension tree withoutNames part
    ((writeAtomically (path.join name) text : ExceptT Failure Steps Unit) >>= next).run
      .nothing := by
  have holder : ∀ {stage}, StageOf extension tree stage →
      stage.locate (path.join name).directory = .ok directory ∧
        stage.entry? directory = some .directory := fun ofStage =>
    have above := ofStage.keepsDirectories _ isDirectory
    ⟨locate_directory_join (ofStage.keepsDirectories.locate located) above proper plain, above⟩
  unfold writeAtomically
  simp only [bind_assoc]
  simp only [Steps.makeDirectories_eq, Steps.makeTemporary_eq, Steps.writeText_eq, Steps.rename_eq,
    Steps.remove_eq]
  -- One order after the other; in between the stage may have changed. The directories are there,
  -- and what is refused is refused at all stages.
  refine plays_attempt fun stage relies => ⟨.nothing, ?_⟩
  obtain ⟨leads, above⟩ := holder relies.ofStage
  rw [makeDirectories_eq leads above]
  refine ⟨.look, ?_⟩
  refine plays_attempt fun stage relies => ?_
  obtain ⟨leads, above⟩ := holder relies.ofStage
  cases changing : (tree.refusalsAt directory).changing with
  | some error =>
    rw [makeTemporary_of_refused leads above (by rw [relies.ofStage.refusalsAt, changing])]
    obtain ⟨none, value⟩ := refused _ (refusal_of_changing changing)
    refine ⟨_, .look, ?_, by rw [none]; rfl⟩
    rw [value, withoutNames_eq_error_iff]
    exact ⟨_, rfl, by rw [Failure.unnamed, unnamed_atPath isFileName_freshName freshName_plain]⟩
  | none =>
    rw [makeTemporary_eq leads above (by rw [relies.ofStage.refusalsAt, changing])]
    -- The name of the temporary file is new at this stage, and it is used at later ones.
    refine ⟨_, .make (stage.entry?_freshName directory) splitName_freshName, ?_⟩
    have lastProper := stage.isFileName_freshName
    have lastPlain := stage.freshName_plain
    generalize stage.freshName = last at lastProper lastPlain ⊢
    have names : ∀ {stage}, StageOf extension tree stage →
        Names stage ((path.join name).directory.join last) directory last := fun ofStage =>
      have ⟨leads, above⟩ := holder ofStage
      .join (locate_eq_ok_iff.mp leads).1 leads above lastProper lastPlain
    refine plays_order fun stage relies => ?_
    cases filling : (tree.refusalsAt directory).ofText text with
    | some error =>
      rw [writeText_of_refused (names relies.ofStage) (relies.there _ _ rfl)
        (by rw [relies.ofStage.refusalsAt, filling])]
      obtain ⟨none, value⟩ := refused _ (refusal_of_filling changing filling)
      refine ⟨_, .look, plays_dropped names changing none ?_⟩
      rw [value, Failure.unnamed, unnamed_atPath lastProper lastPlain]
    | none =>
      rw [writeText_eq (names relies.ofStage) (relies.there _ _ rfl)
        (by rw [relies.ofStage.refusalsAt, filling])]
      refine ⟨_, .fill text, ?_⟩
      dsimp only
      exact plays_moved located isDirectory proper plain goal refused written names
        changing filling

end Plays

end FileTree

end ElmCodec
