/-
**What building several schemas comes to.**

* `perform_buildFile` — building one schema of a tree, from building it alone.
* `perform_mapM_forall₂` — what the results of several commands have to do with their items.
* `planned_of_buildFiles` — every module that is made was planned for its schema.
* `perform_buildTree_eq_ok_iff` — **building a tree** is building the files that are found.
* `exists_jobs_of_buildTree` — the jobs that the modules of a tree come from.
-/

import ElmCodec.Proofs.Build.Discovery
import ElmCodec.Proofs.Build.Job
import ElmCodec.Proofs.Build.Plan

namespace ElmCodec

open FileTree

variable {manifest : Manifest} {time : Int} {tree after : FileTree}

/-- **A schema of a tree is built alone.** Only a failure that ends the run is passed on. -/
theorem perform_buildFile (manifest : Manifest) (time : Int) (input : Path) (tree : FileTree) :
    perform (buildFile manifest time input) tree =
      (match (perform (buildSchema manifest input none none time) tree).1 with
        | .ok job => .ok (input, .ok job.output)
        | .error failure =>
          if failure.endsRun then .error failure else .ok (input, .error failure),
      (perform (buildSchema manifest input none none time) tree).2) := by
  unfold buildFile
  rw [perform_bind, perform_run]
  cases perform (buildSchema manifest input none none time) tree with
  | mk outcome after =>
    cases outcome with
    | ok job => rfl
    | error failure =>
      dsimp only
      split <;> rfl

theorem result_of_buildFile {input : Path} {result : Path × Except Failure Path}
    (built : perform (buildFile manifest time input) tree = (.ok result, after)) :
    result = (input, (perform (buildSchema manifest input none none time) tree).1.map
      (·.output)) := by
  rw [perform_buildFile] at built
  obtain ⟨same, _⟩ := Prod.mk.inj built
  split at same
  · next done =>
    rw [done, ← Except.ok.inj same]
    rfl
  · next failed =>
    split at same
    · cases same
    · rw [failed, ← Except.ok.inj same]
      rfl

/-- A schema that fails is reported, unless its failure ends the run. -/
theorem perform_buildFile_of_continues {input : Path} {result : Except Failure Job}
    (built : perform (buildSchema manifest input none none time) tree = (result, after))
    (continues : ∀ failure, result = .error failure → failure.endsRun = false) :
    perform (buildFile manifest time input) tree = (.ok (input, result.map (·.output)), after) := by
  rw [perform_buildFile, built]
  cases result with
  | ok job => rfl
  | error failure =>
    simp only [continues failure rfl]
    rfl

/-- What holds of every item and its result holds along the lists. -/
theorem perform_mapM_forall₂ {α β : Type} {command : α → ExceptT Failure (StateM FileTree) β}
    {related : α → β → Prop}
    (step : ∀ {item before result after},
      perform (command item) before = (.ok result, after) → related item result)
    {items : List α} {results : List β}
    (ran : perform (items.mapM command) tree = (.ok results, after)) :
    List.Forall₂ related items results := by
  induction items generalizing results tree with
  | nil =>
    cases ran
    exact .nil
  | cons item rest ih =>
    rw [List.mapM_cons, perform_bind] at ran
    cases first : perform (command item) tree with
    | mk outcome middle =>
      rw [first] at ran
      cases outcome with
      | error failure => cases ran
      | ok result =>
        dsimp only at ran
        rw [perform_bind] at ran
        cases others : perform (rest.mapM command) middle with
        | mk outcomes last =>
          rw [others] at ran
          cases outcomes with
          | error failure => cases ran
          | ok more =>
            cases ran
            exact .cons (step first) (ih others)

/-- **Every module that is made was planned** for its schema. -/
theorem planned_of_buildFiles {files : List Path} {results : List (Path × Except Failure Path)}
    (ran : perform (files.mapM (buildFile manifest time)) tree = (.ok results, after)) :
    List.Forall₂ (fun file result => result.1 = file ∧ ∀ output, result.2 = .ok output →
      ∃ job, Job.plan manifest file none none = .ok job ∧ job.output = output) files results := by
  refine perform_mapM_forall₂ ?_ ran
  intro file before result after built
  obtain rfl := result_of_buildFile built
  refine ⟨rfl, fun output made => ?_⟩
  obtain ⟨job, done, rfl⟩ := map_eq_ok_iff.mp made
  exact ⟨job, plan_of_buildSchema _ _ _ _ _ _ (Prod.ext done rfl), rfl⟩

/-- **Building a tree** is building the files that are found below the root. -/
theorem perform_buildTree_eq_ok_iff {root : Path} {summary : Summary} :
    perform (buildTree manifest root time) tree = (.ok summary, after) ↔
      ∃ found results, (perform (discover root manifest.schemaExtension) tree).1 = .ok found ∧
        perform (found.files.mapM (buildFile manifest time)) tree = (.ok results, after) ∧
        summary = .ofResults found.unreadable results := by
  have unchanged : (perform (discover root manifest.schemaExtension) tree).2 = tree := by
    rw [perform_discover]
  unfold buildTree
  rw [perform_bind]
  cases discovered : perform (discover root manifest.schemaExtension) tree with
  | mk outcome middle =>
    obtain rfl : middle = tree := by rw [← unchanged, discovered]
    cases outcome with
    | error failure => simp
    | ok found =>
      dsimp only
      rw [perform_bind]
      cases ran : perform (found.files.mapM (buildFile manifest time)) middle with
      | mk outcomes last =>
        cases outcomes with
        | error failure => simp [ran]
        | ok results =>
          constructor
          · intro same
            cases same
            exact ⟨found, results, rfl, ran, rfl⟩
          · rintro ⟨_, _, same, ran', rfl⟩
            cases same
            rw [ran] at ran'
            cases ran'
            rfl

/-- The modules of a tree come from jobs for different schemas, in the order of these. -/
theorem exists_jobs_of_buildTree {root : Path} {summary : Summary}
    (built : (perform (buildTree manifest root time) tree).1 = .ok summary) :
    ∃ found, (perform (discover root manifest.schemaExtension) tree).1 = .ok found ∧
      ∃ jobs : List Job, jobs.map (·.output) = summary.generated ∧
        (jobs.map (·.input)).Sublist found.files ∧
        ∀ job ∈ jobs, Job.plan manifest job.input none none = .ok job := by
  obtain ⟨found, results, discovered, ran, rfl⟩ :=
    perform_buildTree_eq_ok_iff.mp (Prod.ext built rfl)
  refine ⟨found, discovered, ?_⟩
  have planned := planned_of_buildFiles ran
  clear ran discovered built
  generalize found.files = files at planned ⊢
  induction planned with
  | nil => exact ⟨[], rfl, .slnil, nofun⟩
  | @cons file result _ _ first _ ih =>
    obtain ⟨jobs, outputs, inputs, all⟩ := ih
    obtain ⟨input, outcome⟩ := result
    obtain ⟨rfl, made⟩ := first
    cases outcome with
    | error failure => exact ⟨jobs, outputs, inputs.cons _, all⟩
    | ok output =>
      obtain ⟨job, planned, rfl⟩ := made output rfl
      have about := (Job.plan_eq_ok_iff.mp planned).1
      refine ⟨job :: jobs, congrArg _ outputs, ?_, List.forall_mem_cons.mpr ⟨?_, all⟩⟩
      · rw [List.map_cons, about]
        exact inputs.cons_cons _
      · rwa [about]

end ElmCodec
