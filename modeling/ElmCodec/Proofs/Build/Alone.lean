/-
**Building one schema that is found, at any stage of a run and beside others.**

A schema that is found is in a directory that is there, and so is its module. Building it therefore
adds the module to the tree or leaves the tree as it is, and what comes of it depends on the schema,
on the directories of the tree and on what the tree refuses. It is the same when other schemas are
built in between, but for the names of temporary files.

* `compile` — the module of a schema, from what reading the schema gives.
* `partOf` — what building a schema comes to.
* `FileTree.FoundAt.perform_buildSchema`, `FileTree.FoundAt.plays_buildSchema` — **what building a
  schema does**, alone and beside others.
* `Builds` — all that a run relies on; `FileTree.FoundAt.builds` — every schema that is found has
  it.
-/

import ElmCodec.Proofs.Build.Job
import ElmCodec.Proofs.Build.Outputs
import ElmCodec.Proofs.Build.Replacement
import ElmCodec.Proofs.Build.Runs

namespace ElmCodec

open FileTree
open ElmCodec.Path (stem withSuffix)

/-! ### Schemas at a stage of a run -/

namespace FileTree

variable {tree stage : FileTree}

/-- A walk comes to the same directories at every stage. -/
theorem StageOf.canReach_eq {extension : String} (ofStage : StageOf extension tree stage)
    (here : Location) (names : List String) :
    stage.canReach here names = tree.canReach here names := by
  induction names generalizing here with
  | nil => rfl
  | cons name rest ih => rw [canReach, canReach, ofStage.refusalsAt, ih]

/-- What is found at first is found at every stage. -/
theorem FoundAt.at_stage {root file : Path} {extension : String} {base : Location}
    {directories : List String} {name : String}
    (place : FoundAt tree root extension file base directories name)
    (ofStage : StageOf extension tree stage) :
    FoundAt stage root extension file base directories name where
  path := place.path
  rooted := ofStage.keepsDirectories.locate place.rooted
  directory := ofStage.keepsDirectories.locate place.directory
  above := ofStage.keepsDirectories _ place.above
  proper := place.proper
  content := by rw [ofStage.sources place.extension]; exact place.content
  reached := by rw [ofStage.canReach_eq]; exact place.reached
  extension := place.extension

end FileTree

/-! ### What comes of a schema -/

/-- The module of a schema, from what reading the schema gives. -/
def compile (manifest : Manifest) (time : Int) (input : Path) (read : Except DiskError String) :
    Except Failure (Job × String) := do
  let job ← Job.plan manifest input none none
  let source ← read.mapError (.unreadableSchema job.input)
  let text ← job.generate manifest.imports time source
  return (job, text)

section Compile

variable {manifest : Manifest} {time : Int} {input : Path} {read : Except DiskError String}

theorem compile_of_refused {failure : Failure}
    (refused : Job.plan manifest input none none = .error failure) :
    compile manifest time input read = .error failure := by
  rw [compile, refused]
  rfl

/-- A schema for which a job is planned is read, and the text of the module is made. -/
theorem compile_of_planned {job : Job} (planned : Job.plan manifest input none none = .ok job) :
    compile manifest time input read =
      (read.mapError (.unreadableSchema job.input) >>= job.generate manifest.imports time).map
        fun text => (job, text) := by
  rw [compile, planned]
  cases read with
  | error error => rfl
  | ok source =>
    simp only [bind, Except.bind, Except.mapError]
    cases job.generate manifest.imports time source <;> rfl

theorem plan_of_compile {job : Job} {text : String}
    (made : compile manifest time input read = .ok (job, text)) :
    Job.plan manifest input none none = .ok job := by
  cases planned : Job.plan manifest input none none with
  | error failure => cases (compile_of_refused planned).symm.trans made
  | ok other =>
    rw [compile_of_planned planned] at made
    obtain ⟨_, _, same⟩ := map_eq_ok_iff.mp made
    rw [(Prod.mk.inj same).1]

/-- Without a slash in the output extension only the work on the one schema fails. -/
theorem endsRun_of_compile {failure : Failure} (noSlash : '/' ∉ manifest.outputExtension.toList)
    (refused : compile manifest time input read = .error failure) : failure.endsRun = false := by
  unfold compile at refused
  rcases bind_eq_error_iff.mp refused with notPlanned | ⟨job, _, later⟩
  · exact Job.endsRun_of_plan (fun _ => noSlash) notPlanned
  rcases bind_eq_error_iff.mp later with notRead | ⟨source, _, later⟩
  · cases read with
    | error error =>
      obtain rfl := Except.error.inj notRead
      rfl
    | ok source => cases notRead
  rcases bind_eq_error_iff.mp later with notGenerated | ⟨_, _, impossible⟩
  · exact Job.endsRun_of_generate notGenerated
  · cases impossible

end Compile

/-- Building one schema on its own. -/
def buildAlone (manifest : Manifest) (time : Int) (tree : FileTree) (file : Path) :
    Except Failure Job × FileTree :=
  perform (buildSchema manifest file none none time) tree

section Found

variable {manifest : Manifest} {time : Int} {tree stage : FileTree} {root file : Path}
variable {base : Location} {directories : List String} {name : String} {content : Content}

/-- The part that a schema plays when its module goes to a place. -/
def partOf (manifest : Manifest) (time : Int) (tree : FileTree) (directory : Location)
    (name : String) (input : Path) (read : Except DiskError String) : Part (Except Failure Job) :=
  match compile manifest time input read with
  | .error failure => ⟨directory ++ [name], none, .error failure.unnamed⟩
  | .ok (job, text) =>
    match tree.refusal? job.output directory name text with
    | some failure => ⟨directory ++ [name], none, .error failure⟩
    | none => ⟨directory ++ [name], some text, .ok job⟩

section Part

variable (manifest time tree) (directory : Location) (name : String) (input : Path)
variable (read : Except DiskError String)

theorem goal_partOf :
    (partOf manifest time tree directory name input read).goal = directory ++ [name] := by
  unfold partOf
  repeat' split
  all_goals rfl

/-- A schema is refused, or its module is, or it is put in its place. -/
theorem partOf_cases :
    (∃ failure, compile manifest time input read = .error failure ∧
      partOf manifest time tree directory name input read =
        ⟨directory ++ [name], none, .error failure.unnamed⟩) ∨
    ∃ job text, compile manifest time input read = .ok (job, text) ∧
      ((∃ failure, tree.refusal? job.output directory name text = some failure ∧
          partOf manifest time tree directory name input read =
            ⟨directory ++ [name], none, .error failure⟩) ∨
        tree.refusal? job.output directory name text = none ∧
          partOf manifest time tree directory name input read =
            ⟨directory ++ [name], some text, .ok job⟩) := by
  unfold partOf
  cases compile manifest time input read with
  | error failure => exact .inl ⟨failure, rfl, rfl⟩
  | ok made =>
    obtain ⟨job, text⟩ := made
    refine .inr ⟨job, text, rfl, ?_⟩
    dsimp only
    cases tree.refusal? job.output directory name text with
    | some failure => exact .inl ⟨failure, rfl, rfl⟩
    | none => exact .inr ⟨rfl, rfl⟩

end Part

/-- The part is the same at every stage. -/
theorem partOf_of_stage (ofStage : StageOf manifest.schemaExtension tree stage)
    (directory : Location) (read : Except DiskError String) :
    partOf manifest time stage directory name file read =
      partOf manifest time tree directory name file read := by
  unfold partOf
  simp only [ofStage.refusal_eq]

variable (time) (filled : manifest.outputExtension.toList ≠ [])
include filled

/-- **What building a schema does**: what its part says. -/
theorem FileTree.FoundAt.perform_buildSchema
    (place : FoundAt tree root manifest.schemaExtension file base directories name)
    (here : tree.content? (base ++ directories ++ [name]) = some content) :
    let part := partOf manifest time tree (base ++ directories)
      (withSuffix (stem name) manifest.outputExtension) file content.read
    withoutNames (buildAlone manifest time tree file).1 = part.value ∧
      (buildAlone manifest time tree file).2 = tree.put part.goal part.text? := by
  have readable : tree.readText file = content.read :=
    readText_eq (contentOf_eq_ok_iff.mpr ⟨_, place.names.located, here⟩)
  unfold buildAlone partOf
  cases planned : Job.plan manifest file none none with
  | error failure =>
    rw [compile_of_refused planned, perform_buildSchema_of_refused _ _ _ _ _ _ planned]
    exact ⟨rfl, rfl⟩
  | ok job =>
    have about := (Job.plan_eq_ok_iff.mp planned).1
    obtain ⟨noSlash, output⟩ := place.output_eq_of_plan planned
    obtain ⟨proper, plain⟩ := place.proper_withSuffix filled noSlash
    have rendered := perform_render job manifest.imports time tree
    rw [about, readable, ← about] at rendered
    rw [compile_of_planned planned, perform_buildSchema_of_planned _ _ _ _ _ _ planned, Job.execute,
      perform_bind, rendered]
    cases content.read.mapError (.unreadableSchema job.input) >>=
        job.generate manifest.imports time with
    | error failure => exact ⟨rfl, rfl⟩
    | ok text =>
      have written := perform_writeAtomically_join place.directory place.above proper plain text
      rw [← output] at written
      simp only [Except.map]
      cases refused : tree.refusal? job.output (base ++ directories)
          (withSuffix (stem name) manifest.outputExtension) text with
      | some failure =>
        rw [refused] at written
        obtain ⟨named, rfl, written⟩ := written
        rw [written]
        exact ⟨rfl, rfl⟩
      | none =>
        rw [refused] at written
        rw [written]
        exact ⟨rfl, rfl⟩

/-- It is the same at every stage of a run. -/
theorem FileTree.FoundAt.perform_buildSchema_of_stage
    (place : FoundAt tree root manifest.schemaExtension file base directories name)
    (here : tree.content? (base ++ directories ++ [name]) = some content)
    (ofStage : StageOf manifest.schemaExtension tree stage) :
    let part := partOf manifest time tree (base ++ directories)
      (withSuffix (stem name) manifest.outputExtension) file content.read
    withoutNames (buildAlone manifest time stage file).1 = part.value ∧
      (buildAlone manifest time stage file).2 = stage.put part.goal part.text? := by
  rw [← partOf_of_stage ofStage]
  exact (place.at_stage ofStage).perform_buildSchema time filled
    ((ofStage.sources place.extension).trans here)

/-- **Building a schema plays that part**, whatever others do. -/
theorem FileTree.FoundAt.plays_buildSchema
    (place : FoundAt tree root manifest.schemaExtension file base directories name)
    (here : tree.content? (base ++ directories ++ [name]) = some content) :
    (buildSchema manifest file none none time : ExceptT Failure Steps Job).run.Plays
      manifest.schemaExtension tree withoutNames (partOf manifest time tree (base ++ directories)
        (withSuffix (stem name) manifest.outputExtension) file content.read) .nothing := by
  unfold buildSchema partOf
  cases planned : Job.plan manifest file none none with
  | error failure =>
    rw [compile_of_refused planned]
    exact ⟨rfl, rfl⟩
  | ok job =>
    have about := (Job.plan_eq_ok_iff.mp planned).1
    obtain ⟨noSlash, output⟩ := place.output_eq_of_plan planned
    obtain ⟨proper, plain⟩ := place.proper_withSuffix filled noSlash
    rw [compile_of_planned planned]
    show Steps.Plays _ _ _ _ (job.execute manifest.imports time >>= fun _ => pure job :
      ExceptT Failure Steps Job).run _
    unfold Job.execute Job.render
    simp only [bind_assoc, Steps.readText_eq]
    refine plays_attempt fun stage relies => ⟨.nothing, .look, ?_⟩
    have readable : stage.readText job.input = content.read := by
      rw [about]
      exact readText_eq (contentOf_eq_ok_iff.mpr
        ⟨_, (place.at_stage relies.ofStage).names.located,
          (relies.ofStage.sources place.extension).trans here⟩)
    rw [readable]
    cases content.read with
    | error error => exact ⟨rfl, rfl⟩
    | ok source =>
      simp only [Except.mapError, bind, Except.bind]
      cases job.generate manifest.imports time source with
      | error failure => exact ⟨rfl, rfl⟩
      | ok text =>
        show Steps.Plays _ _ _ _ (writeAtomically job.output text >>= fun _ => pure job :
          ExceptT Failure Steps Job).run _
        simp only [Except.map]
        rw [output]
        refine plays_writeAtomically place.directory place.above proper plain ?_ ?_ ?_
        · split <;> rfl
        · intro failure refused
          rw [refused]
          exact ⟨rfl, rfl⟩
        · intro taken
          rw [taken]
          exact ⟨rfl, rfl, rfl⟩

end Found

/-! ### What a run relies on -/

/-- **Building a schema comes to its part**, at every stage of a run and whatever runs beside it. -/
structure Builds (manifest : Manifest) (time : Int) (tree : FileTree) (file : Path)
    (part : Part (Except Failure Job)) : Prop where
  performs : ∀ stage, StageOf manifest.schemaExtension tree stage →
    withoutNames (buildAlone manifest time stage file).1 = part.value ∧
      (buildAlone manifest time stage file).2 = stage.put part.goal part.text?
  plays : (buildSchema manifest file none none time : ExceptT Failure Steps Job).run.Plays
    manifest.schemaExtension tree withoutNames part .nothing
  /-- No failure ends the run. -/
  continues : ∀ failure, part.value = .error failure → failure.endsRun = false
  /-- A module has a text and its place. -/
  made : ∀ job, part.value = .ok job →
    ∃ text, part.text? = some text ∧ tree.locate job.output = .ok part.goal
  failed : ∀ failure, part.value = .error failure → part.text? = none
  free : part.text? ≠ none → tree.entry? part.goal ≠ some .directory
  /-- The place is under a name that no schema has. -/
  suffixed : ∃ directory name suffix, part.goal = directory ++ [name] ∧
    (Path.splitName name.toList).2 = some suffix ∧ suffix ≠ manifest.schemaExtension.toList

/-- **Every schema that is found** is built so. -/
theorem FileTree.FoundAt.builds {manifest : Manifest} (valid : manifest.validate = .ok ())
    (noPoint : '.' ∉ manifest.outputExtension.toList)
    (noSlash : '/' ∉ manifest.outputExtension.toList) {tree : FileTree} {root file : Path}
    {base : Location} {directories : List String} {name : String} {content : Content}
    (place : FoundAt tree root manifest.schemaExtension file base directories name)
    (here : tree.content? (base ++ directories ++ [name]) = some content) (time : Int) :
    Builds manifest time tree file (partOf manifest time tree (base ++ directories)
      (withSuffix (stem name) manifest.outputExtension) file content.read) := by
  obtain ⟨_, notEmpty, differ, _⟩ := Manifest.validate_eq_ok_iff.mp valid
  have filled : manifest.outputExtension.toList ≠ [] := by simpa using notEmpty
  have performs := fun stage (ofStage : StageOf manifest.schemaExtension tree stage) =>
    place.perform_buildSchema_of_stage time filled here ofStage
  have plays := place.plays_buildSchema time filled here
  have suffixed : (Path.splitName (withSuffix (stem name) manifest.outputExtension).toList).2 =
      some manifest.outputExtension.toList := by
    rw [Path.splitName_withSuffix filled place.stem_ne_nil noPoint]
  have differs : manifest.outputExtension.toList ≠ manifest.schemaExtension.toList :=
    fun same => differ (String.toList_inj.mp same).symm
  rcases partOf_cases manifest time tree (base ++ directories)
      (withSuffix (stem name) manifest.outputExtension) file content.read with
    ⟨failure, refused, same⟩ | ⟨job, text, made, ⟨failure, refused, same⟩ | ⟨taken, same⟩⟩
  · rw [same] at performs plays ⊢
    refine ⟨performs, plays, ?_, nofun, fun _ _ => rfl, nofun, _, _, _, rfl, suffixed, differs⟩
    rintro _ ⟨⟩
    rw [Failure.endsRun_unnamed]
    exact endsRun_of_compile noSlash refused
  · rw [same] at performs plays ⊢
    refine ⟨performs, plays, ?_, nofun, fun _ _ => rfl, nofun, _, _, _, rfl, suffixed, differs⟩
    rintro _ ⟨⟩
    exact endsRun_of_refusal refused
  · rw [same] at performs plays ⊢
    refine ⟨performs, plays, nofun, ?_, nofun, fun _ => free_of_taken taken, _, _, _, rfl,
      suffixed, differs⟩
    rintro _ ⟨⟩
    obtain ⟨_, output⟩ := place.output_eq_of_plan (plan_of_compile made)
    obtain ⟨proper, plain⟩ := place.proper_withSuffix filled noSlash
    refine ⟨text, rfl, ?_⟩
    rw [output]
    exact (Names.join (locate_eq_ok_iff.mp place.directory).1 place.directory place.above proper
      plain).located

namespace Builds

variable {manifest : Manifest} {time : Int} {tree stage : FileTree} {file : Path}
variable {part : Part (Except Failure Job)} (builds : Builds manifest time tree file part)
include builds

theorem goal_ne_nil : part.goal ≠ [] := by
  obtain ⟨directory, name, _, goal, _⟩ := builds.suffixed
  simp [goal]

/-- A run that starts at a stage relies on the same. -/
theorem at_stage (ofStage : StageOf manifest.schemaExtension tree stage) :
    Builds manifest time stage file part where
  performs later ofLater := builds.performs later (ofStage.trans ofLater)
  plays := builds.plays.at_stage ofStage
  continues := builds.continues
  made job done := by
    obtain ⟨text, there, leads⟩ := builds.made job done
    exact ⟨text, there, ofStage.keepsDirectories.locate leads⟩
  failed := builds.failed
  free some := mt (ofStage.directories _).mp (builds.free some)
  suffixed := builds.suffixed

/-- Building a schema leads to another stage. -/
theorem remains (ofStage : StageOf manifest.schemaExtension tree stage) :
    StageOf manifest.schemaExtension tree (stage.put part.goal part.text?) := by
  obtain ⟨directory, name, suffix, goal, named, differs⟩ := builds.suffixed
  by_cases none : part.text? = none
  · rw [none]
    exact ofStage
  · have free := builds.free none
    rw [goal] at free ⊢
    exact ofStage.put free (by rwa [named, ne_eq, Option.some.injEq]) part.text?

/-- The text of the part is what is read when the schema has been built on its own, at any stage. -/
theorem readText_alone (ofStage : StageOf manifest.schemaExtension tree stage) {job : Job}
    {text : String} (made : part.value = .ok job) (there : part.text? = some text) :
    (buildAlone manifest time stage file).2.readText job.output = .ok text := by
  obtain ⟨_, _, leads⟩ := builds.made job made
  have remains := builds.remains ofStage
  rw [(builds.performs stage ofStage).2, readText_eq_ok_iff, contentOf_eq_ok_iff]
  refine ⟨_, remains.keepsDirectories.locate leads, ?_⟩
  rw [there, FileTree.put, content?_insert_file builds.goal_ne_nil, if_pos rfl]

/-- No failure of the schema ends a run, at any stage. -/
theorem continues_of_seen {result : Except Failure Job} (seen : withoutNames result = part.value)
    {failure : Failure} (failed : result = .error failure) : failure.endsRun = false := by
  rw [← failure.endsRun_unnamed]
  exact builds.continues _ (by rw [← seen, failed]; rfl)

/-- What becomes of the schema in a run. -/
theorem perform_buildFile (ofStage : StageOf manifest.schemaExtension tree stage) :
    ∃ result, withoutNames result = part.value.map (·.output) ∧
      perform (buildFile manifest time file) stage =
        (.ok (file, result), stage.put part.goal part.text?) := by
  obtain ⟨seen, after⟩ := builds.performs stage ofStage
  refine ⟨(buildAlone manifest time stage file).1.map (·.output), ?_, ?_⟩
  · rw [withoutNames_map, seen]
  · exact perform_buildFile_of_continues (Prod.ext rfl after) fun _ => builds.continues_of_seen seen

/-- What becomes of the schema while others are built. -/
theorem plays_buildFile :
    (buildFile manifest time file :
      ExceptT Failure Steps (Path × Except Failure Path)).run.Plays manifest.schemaExtension tree
        (·.map fun result => (result.1, withoutNames result.2))
        (part.answer (.ok (file, part.value.map (·.output)))) .nothing := by
  unfold buildFile
  show (ExceptT.lift _ >>= _ : ExceptT Failure Steps _).run.Plays _ _ _ _ _
  rw [ExceptT.run_bind_lift]
  refine builds.plays.answer fun result seen => ?_
  refine ⟨.ok (file, result.map (·.output)), ?_, ?_⟩
  · cases outcome : result with
    | ok job => rfl
    | error failure =>
      simp only [builds.continues_of_seen seen outcome]
      rfl
  · rw [← seen, ← withoutNames_map]
    rfl

end Builds

end ElmCodec
