/-
**What is planned for a schema.**

* `deriveModuleName_eq_some_iff` — **the name of a module** that is derived from its path.
* `Manifest.validate_eq_ok_iff` — **the rules on manifests**.
* `Job.plan_eq_ok_iff` — **the job for a schema**, part by part.
* `Job.endsRun_of_plan`, `Job.endsRun_of_generate` — refusals that are about one schema only.
-/

import ElmCodec.Build.Job
import ElmCodec.Proofs.Outcome

namespace ElmCodec

/-! ### Names of modules -/

/-- Components give names when all of them are names. -/
theorem mapM_name?_eq_some_iff {components : List Path.Component} {names : List String} :
    components.mapM Path.Component.name? = some names ↔ components = names.map .name := by
  induction components generalizing names with
  | nil => cases names <;> simp
  | cons component rest ih =>
    rw [List.mapM_cons, Option.bind_eq_bind, Option.bind_eq_some_iff]
    simp only [Option.bind_eq_bind, Option.bind_eq_some_iff, ih]
    cases component with
    | name text => cases names <;> simp [Path.Component.name?, and_comm]
    | top => cases names <;> simp [Path.Component.name?]
    | current => cases names <;> simp [Path.Component.name?]
    | parent => cases names <;> simp [Path.Component.name?]

/-- **A name is derived** from the names below the source root, if it is a valid one. -/
theorem deriveModuleName_eq_some_iff {output sourceRoot : Path} {moduleName : String} :
    deriveModuleName output sourceRoot = some moduleName ↔
      Elm.isModuleName moduleName = true ∧
        ∃ names, output.withoutExtension.relativeTo sourceRoot = names.map .name ∧
          String.intercalate "." names = moduleName := by
  unfold deriveModuleName
  rw [Option.bind_eq_bind, Option.bind_eq_some_iff]
  constructor
  · rintro ⟨names, found, derived⟩
    dsimp only at derived
    split at derived
    · next valid =>
      obtain rfl := Option.some.inj derived
      exact ⟨valid, names, mapM_name?_eq_some_iff.mp found, rfl⟩
    · cases derived
  · rintro ⟨valid, names, found, rfl⟩
    exact ⟨names, mapM_name?_eq_some_iff.mpr found, if_pos valid⟩

/-! ### Files of modules -/

/-- **A manifest passes its check** when it keeps each of the rules. -/
theorem Manifest.validate_eq_ok_iff {manifest : Manifest} :
    manifest.validate = .ok () ↔
      manifest.schemaExtension ≠ "" ∧ manifest.outputExtension ≠ "" ∧
        manifest.schemaExtension ≠ manifest.outputExtension ∧
        checkExtension manifest.schemaExtension = .ok () ∧
        checkExtension manifest.outputExtension = .ok () ∧
        LogFilter.isValid manifest.logFilter = true ∧ manifest.imports.validate = .ok () := by
  unfold validate
  simp only [unless_eq_ok_iff, seq_eq_ok_iff, mapError_eq_ok_iff, Bool.not_eq_true',
    Bool.not_eq_false, String.isEmpty_iff]

theorem outputPath_eq_ok_iff {manifest : Manifest} {input output : Path} :
    outputPath manifest input = .ok output ↔
      input.withExtension? manifest.outputExtension = some output := by
  unfold outputPath
  split <;> simp_all

/-! ### Jobs -/

/-- The output is found first, and the rest is planned for it. -/
theorem Job.plan_eq_bind (manifest : Manifest) (input : Path) (output : Option Path)
    (moduleName : Option String) : Job.plan manifest input output moduleName =
      (output.elim (outputPath manifest input) .ok >>= fun goal =>
        Job.plan manifest input (some goal) moduleName) := by
  cases output <;> rfl

/-- **What is planned** is about the schema, and each part is as given or as it follows. -/
theorem Job.plan_eq_ok_iff {manifest : Manifest} {input : Path} {output : Option Path}
    {moduleName : Option String} {job : Job} :
    Job.plan manifest input output moduleName = .ok job ↔
      job.input = input ∧ output.elim (outputPath manifest input) .ok = .ok job.output ∧
        moduleName.elim (deriveModuleName job.output manifest.sourceRoot)
          (fun name => if Elm.isModuleName name then some name else none) = some job.moduleName := by
  rw [plan_eq_bind, bind_eq_ok_iff]
  cases moduleName with
  | none =>
    simp only [Option.elim_none]
    constructor
    · rintro ⟨goal, goes, named⟩
      cases derived : deriveModuleName goal manifest.sourceRoot with
      | none => simp [plan, derived] at named
      | some name =>
        simp only [plan, derived, pure_bind] at named
        obtain rfl := pure_eq_ok_iff.mp named
        exact ⟨rfl, goes, derived⟩
    · rintro ⟨rfl, goes, derived⟩
      refine ⟨_, goes, ?_⟩
      simp only [plan, derived, pure_bind]
      rfl
  | some name =>
    simp only [Option.elim_some]
    constructor
    · rintro ⟨goal, goes, named⟩
      by_cases valid : Elm.isModuleName name = true
      · simp only [plan, if_pos valid, pure_bind] at named
        obtain rfl := pure_eq_ok_iff.mp named
        exact ⟨rfl, goes, if_pos valid⟩
      · simp only [plan, if_neg valid, pure_bind] at named
        cases named
    · rintro ⟨rfl, goes, named⟩
      by_cases valid : Elm.isModuleName name = true
      · rw [if_pos valid] at named
        obtain rfl := Option.some.inj named
        refine ⟨_, goes, ?_⟩
        simp only [plan, if_pos valid, pure_bind]
        rfl
      · rw [if_neg valid] at named
        cases named

/-- A job is about the schema that it was planned for, and its module has a valid name. -/
theorem Job.input_and_name_of_plan {manifest : Manifest} {input : Path} {output : Option Path}
    {moduleName : Option String} {job : Job}
    (planned : Job.plan manifest input output moduleName = .ok job) :
    job.input = input ∧ Elm.isModuleName job.moduleName = true := by
  obtain ⟨about, _, named⟩ := Job.plan_eq_ok_iff.mp planned
  refine ⟨about, ?_⟩
  cases moduleName with
  | none => exact (deriveModuleName_eq_some_iff.mp named).1
  | some name =>
    rw [Option.elim_some] at named
    split at named
    · next valid => rwa [← Option.some.inj named]
    · cases named

/-! ### Refusals -/

/-- Without a slash in an output extension that is needed, a job is refused for its names only. -/
theorem Job.endsRun_of_plan {manifest : Manifest} {input : Path} {output : Option Path}
    {moduleName : Option String} {failure : Failure}
    (plain : output = none → '/' ∉ manifest.outputExtension.toList)
    (refused : Job.plan manifest input output moduleName = .error failure) :
    failure.endsRun = false := by
  rw [plan_eq_bind] at refused
  rcases bind_eq_error_iff.mp refused with noOutput | ⟨goal, _, unnamed⟩
  · cases output with
    | some path => cases noOutput
    | none =>
      have goes : outputPath manifest input =
          .ok (input.dropExtension.setExtension manifest.outputExtension) :=
        outputPath_eq_ok_iff.mpr (if_neg (plain rfl))
      rw [Option.elim_none, goes] at noOutput
      cases noOutput
  · simp only [plan, pure_bind] at unnamed
    cases moduleName with
    | some name =>
      dsimp only at unnamed
      split at unnamed
      · cases unnamed
      · rw [← Except.error.inj unnamed]
        rfl
    | none =>
      dsimp only at unnamed
      split at unnamed
      · cases unnamed
      · rw [← Except.error.inj unnamed]
        rfl

/-- The text of a module is refused for what its schema says. -/
theorem Job.endsRun_of_generate {job : Job} {imports : ImportModules} {time : Int} {source : String}
    {failure : Failure} (refused : job.generate imports time source = .error failure) :
    failure.endsRun = false := by
  unfold Job.generate at refused
  rcases bind_eq_error_iff.mp refused with notRead | ⟨schema, _, notEmitted⟩
  · obtain ⟨cause, rfl⟩ := exists_of_mapError notRead
    rfl
  · obtain ⟨cause, rfl⟩ := exists_of_mapError notEmitted
    rfl

end ElmCodec
