/-
**Checking a schema says what building it comes to.**

A check reads a schema, makes its module under some valid name and for the time 0, and throws it
away. A build makes it under the name and for the time that are asked for. Neither the name nor the
time decides whether there is a module, so both accept the same schemas and refuse the others for
the same cause.

* `FileReport.Agrees` — **a report agrees with a build**: same verdict, same cause.
* `checkSource_cases` — checking a text beside making its module.
* `perform_checkFile` — the report on a file agrees with every build of it.
* `check_agrees_with_build` — **checks agree with builds**, for one file and for any list of them.
-/

import ElmCodec.Build.Check
import ElmCodec.Proofs.Build.Plan
import ElmCodec.Proofs.Build.Schemas
import ElmCodec.Proofs.Codec.Emitted

namespace ElmCodec

open FileTree

/-! ### Names to check under -/

/-- There is a valid name to check a schema under, if the output extension has no slash. -/
theorem exists_checkName {manifest : Manifest} (plain : '/' ∉ manifest.outputExtension.toList)
    (path : Path) :
    ∃ name, checkName manifest path = .ok name ∧ Elm.isModuleName name = true := by
  have goes : outputPath manifest path =
      .ok (path.dropExtension.setExtension manifest.outputExtension) := by
    rw [outputPath, Path.withExtension?, if_neg plain]
  rw [checkName, goes]
  cases derived : deriveModuleName (path.dropExtension.setExtension manifest.outputExtension)
      manifest.sourceRoot with
  | none =>
    have valid : Elm.isModuleName fallbackModuleName = true := by decide
    exact ⟨fallbackModuleName, by rw [Except.map, derived]; rfl, valid⟩
  | some name =>
    exact ⟨name, by rw [Except.map, derived]; rfl, (deriveModuleName_eq_some_iff.mp derived).1⟩

/-! ### Reports beside builds -/

/-- The error of a schema that a failure comes from, if it comes from one. -/
def Failure.schemaError? : Failure → Option SchemaError
  | invalidSchema _ cause | notGenerated _ cause | invalidImport cause => some cause
  | _ => none

/-- **A report agrees with a build**, given what reading the file came to. -/
structure FileReport.Agrees (report : FileReport) (read : Except DiskError String)
    (built : Except Failure String) : Prop where
  /-- The file passes exactly when there is a module. -/
  passes_iff : report.passes = true ↔ ∃ text, built = .ok text
  /-- The number of records is that of the schema in the file. -/
  records : ∀ {count}, report.result = .ok count → ∃ source schema, read = .ok source ∧
    Schema.ofYaml source = .ok schema ∧ count = schema.records.size
  /-- The message is the innermost cause of the failure. Its kind and its number are those of the
  error of the schema, if the file could be read. -/
  cause : ∀ {error}, report.result = .error error → ∃ failure, built = .error failure ∧
    failure.chain.getLast? = some error.message ∧
    ((∃ cause, read = .error cause) ∨ ∃ cause, failure.schemaError? = some cause ∧
      error.kind = cause.kind.name ∧ error.code = cause.kind.code)
  /-- A kind and a number of their own are for files that could not be read, and only for them. -/
  unreadable_iff : ∀ {error}, report.result = .error error →
    (error.kind = "io" ↔ ∃ cause, read = .error cause) ∧
      (error.code = 0 ↔ ∃ cause, read = .error cause)

/-- No error of a schema is taken for a file that could not be read. -/
theorem CheckError.refused_apart (cause : SchemaError) :
    (CheckError.refused cause).kind ≠ "io" ∧ (CheckError.refused cause).code ≠ 0 := by
  have apart : ∀ kind : ErrorKind, kind.name ≠ "io" ∧ kind.code ≠ 0 := by
    intro kind
    cases kind <;> decide
  exact apart cause.kind

/-- **Checking a text beside making its module**: a number of records and a module, or one cause. -/
theorem checkSource_cases (job : Job) (imports : ImportModules) (time : Int) (source : String)
    {name : String} (valid : Elm.isModuleName name = true)
    (named : Elm.isModuleName job.moduleName = true) :
    (∃ schema text, Schema.ofYaml source = .ok schema ∧
      checkSource imports name source = .ok schema.records.size ∧
      job.generate imports time source = .ok text) ∨
    ∃ cause failure, checkSource imports name source = .error cause ∧
      job.generate imports time source = .error failure ∧ failure.schemaError? = some cause ∧
      failure.chain.getLast? = some cause.message := by
  unfold checkSource Job.generate
  cases Schema.ofYaml source with
  | error cause => exact .inr ⟨cause, .invalidSchema job.input cause, rfl, rfl, rfl, rfl⟩
  | ok schema =>
    have sameError : ∀ error, schema.emit imports name 0 = .error error ↔
        schema.emit imports job.moduleName time = .error error := by
      intro error
      rw [Schema.emit_eq_error_iff valid, Schema.emit_eq_error_iff named]
    cases checked : schema.emit imports name 0 with
    | error cause =>
      have refused := (sameError cause).mp checked
      refine .inr ⟨cause, .notGenerated job.moduleName cause, ?_, ?_, rfl, rfl⟩
      · simp only [bind, Except.bind, checked]
      · simp only [bind, Except.bind, refused, Except.mapError]
    | ok discarded =>
      cases built : schema.emit imports job.moduleName time with
      | error cause =>
        rw [(sameError cause).mpr built] at checked
        cases checked
      | ok text =>
        refine .inl ⟨schema, text, rfl, ?_, ?_⟩
        · simp only [bind, Except.bind, checked, pure, Except.pure]
        · simp only [bind, Except.bind, built, Except.mapError]

/-! ### Files -/

/-- **The report on a file agrees with every build of it**, under any name and at any time. A check
changes nothing. -/
theorem perform_checkFile {manifest : Manifest} (plain : '/' ∉ manifest.outputExtension.toList)
    (tree : FileTree) (path : Path) :
    ∃ report, perform (checkFile manifest path) tree = (.ok report, tree) ∧ report.path = path ∧
      ∀ output moduleName job time, Job.plan manifest path output moduleName = .ok job →
        report.Agrees (tree.readText path)
          (perform (job.render manifest.imports time) tree).1 := by
  unfold checkFile
  rw [perform_bind, perform_liftM, run_readText]
  cases read : tree.readText path with
  | error cause =>
    refine ⟨⟨path, .error (.unreadable cause)⟩, rfl, rfl, ?_⟩
    intro output moduleName job time planned
    obtain ⟨rfl, _⟩ := Job.input_and_name_of_plan planned
    have built : (perform (job.render manifest.imports time) tree).1 =
        .error (.unreadableSchema job.input cause) := by
      rw [perform_render, read]
      rfl
    rw [built]
    refine ⟨⟨nofun, nofun⟩, nofun, ?_, ?_⟩
    · rintro _ ⟨⟩
      exact ⟨_, rfl, rfl, .inl ⟨cause, rfl⟩⟩
    · rintro _ ⟨⟩
      exact ⟨⟨fun _ => ⟨cause, rfl⟩, fun _ => rfl⟩, ⟨fun _ => ⟨cause, rfl⟩, fun _ => rfl⟩⟩
  | ok source =>
    obtain ⟨name, checked, valid⟩ := exists_checkName plain path
    refine ⟨⟨path, (checkSource manifest.imports name source).mapError .refused⟩, ?_, rfl, ?_⟩
    · simp only [perform_bind, checked, perform_ofExcept]
      rfl
    intro output moduleName job time planned
    obtain ⟨rfl, named⟩ := Job.input_and_name_of_plan planned
    have built : (perform (job.render manifest.imports time) tree).1 =
        job.generate manifest.imports time source := by
      rw [perform_render, read]
      rfl
    rw [built]
    rcases checkSource_cases job manifest.imports time source valid named with
      ⟨schema, text, loaded, passed, made⟩ | ⟨cause, failure, refused, failed, comes, last⟩
    · rw [passed, made]
      refine ⟨⟨fun _ => ⟨text, rfl⟩, fun _ => rfl⟩, ?_, nofun, nofun⟩
      rintro _ ⟨⟩
      exact ⟨source, schema, rfl, loaded, rfl⟩
    · rw [refused, failed]
      obtain ⟨otherKind, otherCode⟩ := CheckError.refused_apart cause
      refine ⟨⟨nofun, nofun⟩, nofun, ?_, ?_⟩
      · rintro _ ⟨⟩
        exact ⟨failure, rfl, last, .inr ⟨cause, comes, rfl, rfl⟩⟩
      · rintro _ ⟨⟩
        exact ⟨⟨fun same => absurd same otherKind, nofun⟩,
          ⟨fun same => absurd same otherCode, nofun⟩⟩

/-- Commands that change nothing, one after another. -/
theorem perform_mapM_of_unchanged {α β : Type} {command : α → ExceptT Failure (StateM FileTree) β}
    {tree : FileTree} (related : α → β → Prop) {items : List α}
    (each : ∀ item ∈ items, ∃ result,
      perform (command item) tree = (.ok result, tree) ∧ related item result) :
    ∃ results, perform (items.mapM command) tree = (.ok results, tree) ∧
      List.Forall₂ related items results := by
  induction items with
  | nil => exact ⟨[], rfl, .nil⟩
  | cons item rest ih =>
    rw [List.forall_mem_cons] at each
    obtain ⟨result, first, holds⟩ := each.1
    obtain ⟨results, others, hold⟩ := ih each.2
    refine ⟨result :: results, ?_, .cons holds hold⟩
    rw [List.mapM_cons, perform_bind, first]
    simp only [perform_bind, others]
    rfl

/-- A report passes or fails with every build that it agrees with. -/
theorem FileReport.Agrees.passes_eq {report : FileReport} {read : Except DiskError String}
    {built : Except Failure String} (agrees : report.Agrees read built) :
    report.passes = built.isOk := by
  rw [Bool.eq_iff_iff, agrees.passes_iff]
  cases built with
  | error failure => exact ⟨nofun, nofun⟩
  | ok text => exact ⟨fun _ => rfl, fun _ => ⟨text, rfl⟩⟩

/-- **Checks agree with builds.** The report on a file agrees with every job that can be planned for
the file, whatever its output, the name of its module and the time. The reports on a list of files
are those on its items, in their order, and as many of them fail as builds do. -/
theorem check_agrees_with_build {manifest : Manifest}
    (plain : '/' ∉ manifest.outputExtension.toList) (tree : FileTree) :
    (∀ path, ∃ report, perform (checkFile manifest path) tree = (.ok report, tree) ∧
      report.path = path ∧
      ∀ output moduleName job time, Job.plan manifest path output moduleName = .ok job →
        report.Agrees (tree.readText path)
          (perform (job.render manifest.imports time) tree).1) ∧
    ∀ paths, ∃ reports, perform (checkFiles manifest paths) tree = (.ok reports, tree) ∧
      reports.map (·.path) = paths ∧
      List.Forall₂ (fun path report => perform (checkFile manifest path) tree = (.ok report, tree))
        paths reports ∧
      ∀ jobs time, List.Forall₂ (fun path job => ∃ output moduleName,
          Job.plan manifest path output moduleName = .ok job) paths jobs →
        failedCount reports =
          jobs.countP fun job => !(perform (job.render manifest.imports time) tree).1.isOk := by
  refine ⟨perform_checkFile plain tree, fun paths => ?_⟩
  obtain ⟨reports, performed, each⟩ :=
    perform_mapM_of_unchanged (fun path report =>
        perform (checkFile manifest path) tree = (.ok report, tree) ∧ report.path = path ∧
          ∀ output moduleName job time, Job.plan manifest path output moduleName = .ok job →
            report.Agrees (tree.readText path)
              (perform (job.render manifest.imports time) tree).1)
      fun path (_ : path ∈ paths) =>
        (perform_checkFile plain tree path).imp fun _ all => ⟨all.1, all⟩
  refine ⟨reports, performed, ?_, each.imp fun _ _ holds => holds.1, fun jobs time planned => ?_⟩
  · clear performed
    induction each with
    | nil => rfl
    | cons first _ ih => rw [List.map_cons, first.2.1, ih]
  · clear performed
    rw [failedCount, ← List.countP_eq_length_filter]
    induction each generalizing jobs with
    | nil =>
      cases planned
      rfl
    | cons first _ ih =>
      cases planned with
      | cons firstPlanned others =>
        obtain ⟨output, moduleName, firstPlanned⟩ := firstPlanned
        have agrees := first.2.2 output moduleName _ time firstPlanned
        rw [List.countP_cons, List.countP_cons, ih _ others, agrees.passes_eq]

/-- Of a schema that gives a module, one that is not finished and one that is not there, two
fail. -/
theorem drafts_checked :
    '/' ∉ ({} : Manifest).outputExtension.toList ∧
      ∃ reports, perform (checkFiles {} [⟨"A.yaml"⟩, ⟨"A.Gen.yaml"⟩, ⟨"B.yaml"⟩]) drafts =
          (.ok reports, drafts) ∧
        reports.map (·.path) = [⟨"A.yaml"⟩, ⟨"A.Gen.yaml"⟩, ⟨"B.yaml"⟩] ∧
        failedCount reports = 2 := by
  have plain : '/' ∉ ({} : Manifest).outputExtension.toList := by decide
  obtain ⟨_, lists⟩ := check_agrees_with_build plain drafts
  obtain ⟨reports, performed, inOrder, _, counts⟩ :=
    lists [⟨"A.yaml"⟩, ⟨"A.Gen.yaml"⟩, ⟨"B.yaml"⟩]
  refine ⟨plain, reports, performed, inOrder, ?_⟩
  have planned : ∀ input : Path, Job.plan {} input (some ⟨"out.elm"⟩) (some "Out") =
      .ok ⟨input, ⟨"out.elm"⟩, "Out"⟩ := by
    intro input
    have valid : Elm.isModuleName "Out" = true := by decide
    exact Job.plan_eq_ok_iff.mpr ⟨rfl, rfl, by rw [Option.elim_some, valid]; rfl⟩
  rw [counts _ 0 (.cons ⟨_, _, planned _⟩ (.cons ⟨_, _, planned _⟩
    (.cons ⟨_, _, planned _⟩ .nil)))]
  decide +kernel

end ElmCodec
