/-
**What ends a whole run.**

A failure is about one schema and is reported, or it ends the run. The latter comes of an output
extension with a slash and of nothing else. The check of manifests lets such an extension pass.

* `FileTree.Continues` — **a command that does not end the run**, closed under the ways to put
  commands together.
* `continues_buildSchema`, `continues_buildTree` — building a schema and building a tree, step by
  step.
* `EndsRun` — **an outcome that ends the run**.
* `endsRun_plan_iff`, `endsRun_checkFile_iff`, `endsRun_buildTree_iff` — when planning a job,
  checking a file and building a tree end the run.
* `run_ends_iff_slash` — all three together.
* `slashed_extension_ends_run` — a manifest that passes its check and ends all of them.
-/

import ElmCodec.Proofs.Build.Checks
import ElmCodec.Proofs.Build.Runs

namespace ElmCodec

open FileTree

/-! ### Commands that do not end the run -/

namespace FileTree

variable {α β : Type}

/-- **A command does not end the run**, whatever it fails of and in whatever tree. -/
def Continues (command : ExceptT Failure (StateM FileTree) α) : Prop :=
  ∀ tree failure, (perform command tree).1 = .error failure → failure.endsRun = false

namespace Continues

theorem pure (value : α) : Continues (Pure.pure value) := fun _ _ => nofun

theorem throw {failure : Failure} (continues : failure.endsRun = false) :
    Continues (MonadExcept.throw failure : ExceptT Failure (StateM FileTree) α) := by
  rintro _ _ ⟨⟩
  exact continues

theorem liftM (order : StateM FileTree α) :
    Continues (MonadLiftT.monadLift order : ExceptT Failure (StateM FileTree) α) := fun _ _ => nofun

theorem attempt (order : StateM FileTree (Except DiskError α)) {failure : DiskError → Failure}
    (continues : ∀ error, (failure error).endsRun = false) : Continues (attempt order failure) := by
  intro tree refusal failed
  rw [perform_attempt] at failed
  obtain ⟨error, rfl⟩ := exists_of_mapError failed
  exact continues error

theorem of_outcome {outcome : Except Failure α}
    (continues : ∀ {failure}, outcome = .error failure → failure.endsRun = false) :
    Continues (ofExcept outcome) := by
  intro tree failure failed
  rw [perform_ofExcept] at failed
  exact continues failed

theorem bind {first : ExceptT Failure (StateM FileTree) α}
    {next : α → ExceptT Failure (StateM FileTree) β} (here : Continues first)
    (later : ∀ value, Continues (next value)) : Continues (first >>= next) := by
  intro tree failure failed
  rw [perform_bind] at failed
  cases ran : perform first tree with
  | mk outcome after =>
    rw [ran] at failed
    cases outcome with
    | error refusal =>
      obtain rfl := Except.error.inj failed
      exact here tree refusal (by rw [ran])
    | ok value => exact later value after failure failed

theorem mapM {items : List α} {command : α → ExceptT Failure (StateM FileTree) β}
    (each : ∀ item, Continues (command item)) : Continues (items.mapM command) := by
  induction items with
  | nil => exact pure []
  | cons item rest ih =>
    rw [List.mapM_cons]
    exact bind (each item) fun _ => bind ih fun _ => pure _

end Continues

end FileTree

/-! ### Building a schema -/

theorem continues_writeAtomically (path : Path) (text : String) :
    Continues (writeAtomically path text) := by
  unfold writeAtomically
  refine .bind (.attempt _ fun _ => rfl) fun _ => .bind (.attempt _ fun _ => rfl) fun temporary =>
    .bind (.liftM _) fun written => ?_
  have dropped : ∀ error, Continues (do
      liftM (Disk.remove temporary : StateM FileTree Unit)
      throw (.notWritten path error) : ExceptT Failure (StateM FileTree) Unit) :=
    fun _ => .bind (.liftM _) fun _ => .throw rfl
  cases written with
  | ok value =>
    refine .bind (.liftM _) fun moved => ?_
    cases moved with
    | ok value => exact .pure ()
    | error error => exact dropped error
  | error error =>
    -- Nothing is moved when the text could not be written.
    dsimp only
    rw [pure_bind]
    exact dropped (.atPath temporary error)

theorem continues_execute (job : Job) (imports : ImportModules) (time : Int) :
    Continues (job.execute imports time) :=
  .bind (.bind (.attempt _ fun _ => rfl) fun _ => .of_outcome Job.endsRun_of_generate) fun text =>
    continues_writeAtomically job.output text

theorem continues_discover (root : Path) (extension : String) :
    Continues (discover root extension) := by
  intro tree failure failed
  rw [perform_discover] at failed
  split at failed
  · cases failed
  · rw [← Except.error.inj failed]
    rfl

section Plain

variable {manifest : Manifest} (plain : '/' ∉ manifest.outputExtension.toList)
include plain

theorem continues_buildSchema (input : Path) (output : Option Path) (moduleName : Option String)
    (time : Int) : Continues (buildSchema manifest input output moduleName time) :=
  .bind (.of_outcome (Job.endsRun_of_plan fun _ => plain)) fun job =>
    .bind (continues_execute job manifest.imports time) fun _ => .pure job

theorem continues_buildFile (time : Int) (input : Path) :
    Continues (buildFile manifest time input) := by
  intro tree failure failed
  have continues := continues_buildSchema plain input none none time tree
  rw [perform_buildFile_of_continues (Prod.ext rfl rfl) continues] at failed
  cases failed

/-- **Building a tree** does not end the run. -/
theorem continues_buildTree (root : Path) (time : Int) :
    Continues (buildTree manifest root time) :=
  .bind (continues_discover root manifest.schemaExtension) fun _ =>
    .bind (.mapM (continues_buildFile plain time)) fun _ => .pure _

end Plain

/-! ### What ends a run -/

/-- **An outcome ends the run.** -/
def EndsRun {α : Type} (outcome : Except Failure α) : Prop :=
  ∃ failure, outcome = .error failure ∧ failure.endsRun = true

theorem FileTree.Continues.not_endsRun {α : Type} {command : ExceptT Failure (StateM FileTree) α}
    (continues : Continues command) (tree : FileTree) : ¬ EndsRun (perform command tree).1 := by
  rintro ⟨failure, failed, ends⟩
  rw [continues tree failure failed] at ends
  cases ends

section Slash

variable {manifest : Manifest}

theorem outputPath_of_slash (slash : '/' ∈ manifest.outputExtension.toList) (input : Path) :
    outputPath manifest input = .error (.separatorInExtension manifest.outputExtension) := by
  rw [outputPath, Path.withExtension?, if_pos slash]

theorem plan_of_slash (slash : '/' ∈ manifest.outputExtension.toList) (input : Path)
    (moduleName : Option String) : Job.plan manifest input none moduleName =
      .error (.separatorInExtension manifest.outputExtension) := by
  rw [Job.plan_eq_bind, Option.elim_none, outputPath_of_slash slash]
  rfl

/-- **Planning ends the run** when the output has to be found and its extension has a slash. -/
theorem endsRun_plan_iff {input : Path} {output : Option Path} {moduleName : Option String} :
    EndsRun (Job.plan manifest input output moduleName) ↔
      output = none ∧ '/' ∈ manifest.outputExtension.toList := by
  constructor
  · rintro ⟨failure, refused, ends⟩
    by_contra needless
    rw [Job.endsRun_of_plan (fun none slash => needless ⟨none, slash⟩) refused] at ends
    cases ends
  · rintro ⟨rfl, slash⟩
    exact ⟨_, plan_of_slash slash input moduleName, rfl⟩

/-- **Checking a file ends the run** when it can be read and the output extension has a slash. -/
theorem endsRun_checkFile_iff {path : Path} {tree : FileTree} :
    EndsRun (perform (checkFile manifest path) tree).1 ↔
      (∃ source, tree.readText path = .ok source) ∧ '/' ∈ manifest.outputExtension.toList := by
  constructor
  · rintro ⟨failure, failed, _⟩
    refine ⟨?_, ?_⟩
    · cases read : tree.readText path with
      | ok source => exact ⟨source, rfl⟩
      | error cause =>
        rw [checkFile, perform_bind, perform_liftM, run_readText, read] at failed
        cases failed
    · by_contra plain
      obtain ⟨report, performed, _⟩ := perform_checkFile plain tree path
      rw [performed] at failed
      cases failed
  · rintro ⟨⟨source, read⟩, slash⟩
    refine ⟨.separatorInExtension manifest.outputExtension, ?_, rfl⟩
    rw [checkFile, perform_bind, perform_liftM, run_readText, read]
    dsimp only
    rw [perform_bind, checkName, outputPath_of_slash slash, perform_ofExcept]
    rfl

/-- **Building a tree ends the run** when there is a schema in it and the output extension has a
slash. -/
theorem endsRun_buildTree_iff {root : Path} {time : Int} {tree : FileTree} :
    EndsRun (perform (buildTree manifest root time) tree).1 ↔
      (∃ found, (perform (discover root manifest.schemaExtension) tree).1 = .ok found ∧
        found.files ≠ []) ∧ '/' ∈ manifest.outputExtension.toList := by
  constructor
  · intro ends
    refine ⟨?_, ?_⟩
    · obtain ⟨failure, failed, ends⟩ := ends
      unfold buildTree at failed
      rw [perform_bind] at failed
      cases discovered : perform (discover root manifest.schemaExtension) tree with
      | mk outcome middle =>
        rw [discovered] at failed
        cases outcome with
        | error refusal =>
          obtain rfl := Except.error.inj failed
          rw [continues_discover _ _ tree refusal (by rw [discovered])] at ends
          cases ends
        | ok found =>
          refine ⟨found, rfl, fun none => ?_⟩
          simp only [none] at failed
          cases failed
    · by_contra plain
      exact (continues_buildTree plain root time).not_endsRun tree ends
  · rintro ⟨⟨found, discovered, some⟩, slash⟩
    refine ⟨.separatorInExtension manifest.outputExtension, ?_, rfl⟩
    obtain ⟨file, rest, whole⟩ := List.exists_cons_of_ne_nil some
    have whole' : perform (discover root manifest.schemaExtension) tree = (.ok found, tree) :=
      Prod.ext discovered (by rw [perform_discover])
    unfold buildTree
    rw [perform_bind, whole']
    simp only [whole, perform_bind, List.mapM_cons, perform_buildFile,
      perform_buildSchema_of_refused _ _ _ _ _ _ (plan_of_slash slash file none)]
    rfl

end Slash

/-- **A run is ended by a slash** in the output extension and by nothing else. Without one, planning
a job, checking a file and building a tree give a result or a failure that is reported. With one, a
job without an output, a check of a file that can be read and a build of a tree with a schema in it
end the run. -/
theorem run_ends_iff_slash (manifest : Manifest) :
    (∀ input output moduleName, EndsRun (Job.plan manifest input output moduleName) ↔
      output = none ∧ '/' ∈ manifest.outputExtension.toList) ∧
    (∀ path tree, EndsRun (perform (checkFile manifest path) tree).1 ↔
      (∃ source, tree.readText path = .ok source) ∧ '/' ∈ manifest.outputExtension.toList) ∧
    ∀ root time tree, EndsRun (perform (buildTree manifest root time) tree).1 ↔
      (∃ found, (perform (discover root manifest.schemaExtension) tree).1 = .ok found ∧
        found.files ≠ []) ∧ '/' ∈ manifest.outputExtension.toList :=
  ⟨fun _ _ _ => endsRun_plan_iff, fun _ _ => endsRun_checkFile_iff,
    fun _ _ _ => endsRun_buildTree_iff⟩

/-- A manifest that passes its check, though its output extension has a slash. -/
theorem slashed_extension_ends_run :
    ∃ manifest : Manifest, manifest.validate = .ok () ∧
      EndsRun (Job.plan manifest ⟨"A.yaml"⟩ none none) ∧
      EndsRun (perform (checkFile manifest ⟨"A.yaml"⟩) drafts).1 ∧
      EndsRun (perform (buildTree manifest ⟨"."⟩ 0) drafts).1 := by
  have slash : '/' ∈ "a/b".toList := by decide
  have found : (perform (discover ⟨"."⟩ "yaml") drafts).1 =
      .ok ⟨[⟨"./A.Gen.yaml"⟩, ⟨"./A.yaml"⟩], []⟩ := by decide +kernel
  have read : drafts.readText ⟨"A.yaml"⟩ =
      .ok "name: s\nversion: 1\nobjects:\n  A:\n    fields: \x7b\x7d\n" := by decide +kernel
  exact ⟨{ outputExtension := "a/b" }, by decide +kernel, endsRun_plan_iff.mpr ⟨rfl, slash⟩,
    endsRun_checkFile_iff.mpr ⟨⟨_, read⟩, slash⟩,
    endsRun_buildTree_iff.mpr ⟨⟨_, found, List.cons_ne_nil _ _⟩, slash⟩⟩

end ElmCodec
