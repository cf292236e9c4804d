/-
**The schemas of a tree are built independently of each other.**

Each schema comes to its part at every stage of a run, and no two of them have one place. It does
therefore not matter in which order they are built, nor whether they are built one after the other
or side by side: the result is what building each of them alone comes to. The modules are listed in
the order of the paths of their schemas, which need not be that of their own.

* `buildInOrder` — builds schemas in an order of its own and lists what becomes of them in theirs;
  `buildTogether` — builds them side by side.
* `perform_mapM_buildFile` — **a run** in any order.
* `Summary.unnamed` — a summary without the names of temporary files.
* `IsProduct` — a tree and a summary as if every schema had been built alone.
* `perform_buildInOrder`, `eq_of_finished_buildFile` — what a run comes to, in any order and side by
  side.
* `buildTree_isProduct` — **building a tree** is a product of independent builds.
* `outputs_out_of_order` — lists that are not in the order of their own paths.
-/

import ElmCodec.Command.Run
import ElmCodec.Proofs.Build.Alone
import ElmCodec.Proofs.Build.SchemaFiles

namespace ElmCodec

open FileTree
open ElmCodec.Path (stem withSuffix)

/-! ### Ways to build several schemas -/

/-- Builds schemas in an order of its own. What becomes of them is listed in that in which they are
found. -/
def buildInOrder {m : Type → Type} [Monad m] [Disk m] (manifest : Manifest) (time : Int)
    (found : Discovery) (order : List Path) : ExceptT Failure m Summary := do
  let results ← order.mapM (buildFile manifest time)
  return .ofResults found.unreadable
    (found.files.filterMap fun file => results.find? (·.1 == file))

/-- The commands that build schemas side by side, before any of them has begun. -/
def buildTogether (manifest : Manifest) (time : Int) (tree : FileTree) :
    Crew (Except Failure (Path × Except Failure Path)) :=
  ⟨fun file => (buildFile manifest time file : ExceptT Failure Steps _).run, tree⟩

/-! ### Summaries -/

/-- A summary without the names of temporary files. -/
def Summary.unnamed (summary : Summary) : Summary where
  generated := summary.generated
  failed := summary.failed.map fun (path, failure) => (path, failure.unnamed)

/-- What could not be read has no temporary file. -/
theorem Summary.unnamed_ofResults {unreadable : List (Path × Failure)}
    (plain : ∀ entry ∈ unreadable, entry.2.unnamed = entry.2)
    (results : List (Path × Except Failure Path)) :
    (Summary.ofResults unreadable results).unnamed = .ofResults unreadable
      (results.map fun result => (result.1, withoutNames result.2)) := by
  unfold unnamed ofResults
  rw [Summary.mk.injEq]
  constructor
  · rw [List.filterMap_map]
    refine List.filterMap_congr fun (file, result) _ => ?_
    cases result <;> rfl
  · rw [List.map_append, List.map_filterMap, List.filterMap_map]
    congr 1
    · have same : ∀ entry ∈ unreadable, (entry.1, entry.2.unnamed) = id entry :=
        fun entry member => Prod.ext rfl (plain entry member)
      exact (List.map_congr_left same).trans (List.map_id unreadable)
    · refine List.filterMap_congr fun (file, result) _ => ?_
      cases result <;> rfl

/-- The summary of what schemas come to, in their order. -/
def summaryOf (parts : Path → Part (Except Failure Job)) (found : Discovery) : Summary :=
  .ofResults found.unreadable
    (found.files.map fun file => (file, (parts file).value.map (·.output)))

section Summary

variable (parts : Path → Part (Except Failure Job)) (found : Discovery)

theorem generated_summaryOf : (summaryOf parts found).generated =
    found.files.filterMap fun file => ((parts file).value.map (·.output)).toOption :=
  List.filterMap_map ..

theorem failed_summaryOf : (summaryOf parts found).failed =
    found.unreadable ++ found.files.filterMap fun file => match (parts file).value with
      | .ok _ => none
      | .error failure => some (file, failure) := by
  refine congrArg (found.unreadable ++ ·) ?_
  refine (List.filterMap_map ..).trans (List.filterMap_congr fun file _ => ?_)
  cases outcome : (parts file).value <;> simp [outcome, Except.map]

end Summary

/-! ### Runs -/

section Runs

variable {manifest : Manifest} {time : Int} {tree stage : FileTree} {order : List Path}
variable {parts : Path → Part (Except Failure Job)}
variable (builds : ∀ file ∈ order, Builds manifest time tree file (parts file))
include builds

theorem stageOf_putAll (ofStage : StageOf manifest.schemaExtension tree stage) :
    StageOf manifest.schemaExtension tree (stage.putAll parts order) := by
  induction order generalizing stage with
  | nil => exact ofStage
  | cons file rest ih =>
    rw [List.forall_mem_cons] at builds
    exact ih builds.2 (builds.1.remains ofStage)

/-- **A run in any order**: every schema comes to its part. -/
theorem perform_mapM_buildFile (each : order.Nodup)
    (ofStage : StageOf manifest.schemaExtension tree stage) :
    ∃ outcome : Path → Except Failure Path,
      (∀ file ∈ order, withoutNames (outcome file) = (parts file).value.map (·.output)) ∧
      perform (order.mapM (buildFile manifest time)) stage =
        (.ok (order.map fun file => (file, outcome file)), stage.putAll parts order) := by
  induction order generalizing stage with
  | nil => exact ⟨fun _ => .ok ⟨""⟩, nofun, rfl⟩
  | cons file rest ih =>
    rw [List.forall_mem_cons] at builds
    rw [List.nodup_cons] at each
    obtain ⟨result, seen, built⟩ := builds.1.perform_buildFile ofStage
    obtain ⟨outcome, others, ran⟩ := ih builds.2 each.2 (builds.1.remains ofStage)
    have kept : ∀ other ∈ rest, Function.update outcome file result other = outcome other :=
      fun other member => Function.update_of_ne (by rintro rfl; exact each.1 member) _ _
    refine ⟨Function.update outcome file result, List.forall_mem_cons.mpr ⟨?_, ?_⟩, ?_⟩
    · rw [Function.update_self, seen]
    · intro other member
      rw [kept other member, others other member]
    · have same : (rest.map fun other => (other, Function.update outcome file result other)) =
          rest.map fun other => (other, outcome other) :=
        List.map_congr_left fun other member => by rw [kept other member]
      rw [List.map_cons, Function.update_self, same, List.mapM_cons, perform_bind, built]
      simp only [perform_bind, ran]
      rfl

end Runs

/-! ### The product of independent builds -/

/-- **A summary and a tree are as if every schema had been built alone** on the tree of before, and
all that came of it had been put together. -/
structure IsProduct (manifest : Manifest) (tree : FileTree) (found : Discovery)
    (alone : Path → Except Failure Job × FileTree) (summary : Summary) (after : FileTree) :
    Prop where
  /-- The modules of the schemas that can be built alone. They are in the order of the paths of the
  schemas, whatever that of their own is. -/
  generated : summary.generated = found.files.filterMap fun file =>
    ((alone file).1.map (·.output)).toOption
  /-- What could not be read in the order of its paths, and behind it the other schemas in the order
  of theirs, with the failures that they have alone. -/
  failed : summary.unnamed.failed = found.unreadable ++ found.files.filterMap fun file =>
    match withoutNames (alone file).1 with
    | .ok _ => none
    | .error failure => some (file, failure)
  /-- Every module has the text that it has when it is built alone. -/
  written : ∀ file ∈ found.files, ∀ job, (alone file).1 = .ok job →
    ∃ text, (alone file).2.readText job.output = .ok text ∧ after.readText job.output = .ok text
  /-- Different schemas have modules at different paths. -/
  outputs : (found.files.map (outputPath manifest)).Nodup
  /-- These lead to different places. -/
  apart : summary.generated.Pairwise fun first second => after.locate first ≠ after.locate second
  /-- All other files are as they were. -/
  unchanged : ∀ location, (∀ output ∈ summary.generated, after.locate output ≠ .ok location) →
    after.content? location = tree.content? location

/-- What became of the schemas is found by their paths. -/
theorem filterMap_find?_of_perm {results : Path → Except Failure Path} {files order : List Path}
    (perm : order.Perm files) :
    (files.filterMap fun file => (order.map fun file => (file, results file)).find? (·.1 == file)) =
      files.map fun file => (file, results file) := by
  have each : ∀ file ∈ files, (order.map fun file => (file, results file)).find? (·.1 == file) =
      some (file, results file) := by
    intro file member
    rw [List.find?_map]
    cases found : order.find? ((·.1 == file) ∘ fun file => (file, results file)) with
    | none =>
      have absent := List.find?_eq_none.mp found file (perm.symm.subset member)
      simp at absent
    | some other =>
      have same : other = file := by simpa using List.find?_some found
      rw [same]
      rfl
  rw [List.filterMap_congr each]
  exact congrFun List.filterMap_eq_map files

section Product

variable {manifest : Manifest} {time : Int} {tree : FileTree} {found : Discovery}
variable {parts : Path → Part (Except Failure Job)}

/-- **What is summed up**, when each schema comes to its part. -/
theorem unnamed_eq_summaryOf (plain : ∀ entry ∈ found.unreadable, entry.2.unnamed = entry.2)
    {outcome : Path → Except Failure Path}
    (seen : ∀ file ∈ found.files,
      withoutNames (outcome file) = (parts file).value.map (·.output)) :
    (Summary.ofResults found.unreadable
      (found.files.map fun file => (file, outcome file))).unnamed = summaryOf parts found := by
  rw [Summary.unnamed_ofResults plain, List.map_map, summaryOf]
  exact congrArg _ (List.map_congr_left fun file member => Prod.ext rfl (seen file member))

variable (builds : ∀ file ∈ found.files, Builds manifest time tree file (parts file))
variable (distinct : ∀ file ∈ found.files, ∀ other ∈ found.files, file ≠ other →
  (parts file).goal ≠ (parts other).goal)
include builds distinct

/-- **Building in any order** comes to the same. -/
theorem perform_buildInOrder (plain : ∀ entry ∈ found.unreadable, entry.2.unnamed = entry.2)
    (each : found.files.Nodup) {order : List Path} (perm : order.Perm found.files) :
    ∃ summary, summary.unnamed = summaryOf parts found ∧
      perform (buildInOrder manifest time found order) tree =
        (.ok summary, tree.putAll parts found.files) := by
  have builds' := fun file member => builds file (perm.subset member)
  have distinct' := fun file member other member' =>
    distinct file (perm.subset member) other (perm.subset member')
  obtain ⟨outcome, seen, ran⟩ :=
    perform_mapM_buildFile builds' (perm.nodup_iff.mpr each) (.refl tree)
  refine ⟨_, unnamed_eq_summaryOf plain fun file member => seen file (perm.symm.subset member), ?_⟩
  unfold buildInOrder
  rw [perform_bind, ran, putAll_perm distinct' perm]
  simp only [filterMap_find?_of_perm perm]
  rfl

/-- **Building side by side** comes to the same, however the orders follow each other. -/
theorem eq_of_finished_buildFile {crew : Crew (Except Failure (Path × Except Failure Path))}
    (reached : Crew.Reaches found.files (buildTogether manifest time tree) crew)
    (finished : crew.Finished found.files) :
    (∃ outcome : Path → Except Failure Path, ∀ file ∈ found.files,
      withoutNames (outcome file) = (parts file).value.map (·.output) ∧
        crew.steps file = .done (.ok (file, outcome file))) ∧
    crew.tree = tree.putAll parts found.files := by
  have separate : Separate manifest.schemaExtension tree
      (fun file => (parts file).answer
        (.ok (file, (parts file).value.map (·.output)) :
          Except Failure (Path × Except Failure Path))) found.files :=
    ⟨distinct, fun file member => (builds file member).free,
      fun file member => (builds file member).suffixed⟩
  obtain ⟨values, same⟩ := Crew.eq_of_finished separate (Crew.Together.reaches separate
    ⟨fun _ => .nothing, fun file member => (builds file member).plays_buildFile, .start⟩ reached)
    finished
  have each : ∀ file ∈ found.files, ∃ result : Except Failure Path,
      withoutNames result = (parts file).value.map (·.output) ∧
        crew.steps file = .done (.ok (file, result)) := by
    intro file member
    obtain ⟨value, done, seen⟩ := values file member
    obtain ⟨⟨_, result⟩, rfl, pair⟩ := map_eq_ok_iff.mp seen
    obtain ⟨rfl, seen⟩ := Prod.mk.inj pair
    exact ⟨result, seen, done⟩
  choose! outcome holds using each
  exact ⟨⟨outcome, holds⟩, same⟩

omit distinct in
/-- In the end the output of a module leads to its place. -/
theorem locate_putAll {file : Path} (member : file ∈ found.files) {job : Job}
    (made : (parts file).value = .ok job) :
    (tree.putAll parts found.files).locate job.output = .ok (parts file).goal := by
  obtain ⟨_, _, leads⟩ := (builds file member).made job made
  exact (stageOf_putAll builds (.refl tree)).keepsDirectories.locate leads

theorem readText_putAll {file : Path} (member : file ∈ found.files) {job : Job} {text : String}
    (made : (parts file).value = .ok job) (there : (parts file).text? = some text) :
    (tree.putAll parts found.files).readText job.output = .ok text := by
  rw [readText_eq_ok_iff, contentOf_eq_ok_iff]
  refine ⟨_, locate_putAll builds member made, ?_⟩
  rw [content?_eq_some_iff, entry?_of_ne_nil (builds file member).goal_ne_nil]
  exact get?_putAll distinct member there

/-- Modules of different schemas are at different places. -/
theorem apart_putAll (each : found.files.Nodup) : (summaryOf parts found).generated.Pairwise
    fun first second => (tree.putAll parts found.files).locate first ≠
      (tree.putAll parts found.files).locate second := by
  rw [generated_summaryOf, List.pairwise_filterMap]
  refine each.pairwise_of_forall_ne fun file member other member' differ => ?_
  intro first made second made' same
  obtain ⟨job, done, rfl⟩ := map_eq_ok_iff.mp (toOption_eq_some_iff.mp made)
  obtain ⟨otherJob, done', rfl⟩ := map_eq_ok_iff.mp (toOption_eq_some_iff.mp made')
  rw [locate_putAll builds member done, locate_putAll builds member' done'] at same
  exact distinct file member other member' differ (Except.ok.inj same)

omit distinct in
/-- Where no module is put there is what was there before. -/
theorem content?_putAll {location : Location}
    (free : ∀ output ∈ (summaryOf parts found).generated,
      (tree.putAll parts found.files).locate output ≠ .ok location) :
    (tree.putAll parts found.files).content? location = tree.content? location := by
  refine content?_congr (get?_putAll_of_absent fun file member here => ?_)
  cases done : (parts file).value with
  | error failure => exact (builds file member).failed failure done
  | ok job =>
    have listed : job.output ∈ (summaryOf parts found).generated := by
      rw [generated_summaryOf]
      exact List.mem_filterMap.mpr ⟨file, member, by rw [done]; rfl⟩
    exact absurd (here ▸ locate_putAll builds member done) (free job.output listed)

/-- **It is the product of independent builds**, whatever each of them draws. -/
theorem isProduct_putAll (each : found.files.Nodup)
    (outputs : (found.files.map (outputPath manifest)).Nodup) {summary : Summary}
    (sums : summary.unnamed = summaryOf parts found) (draws : Path → Nat) :
    IsProduct manifest tree found
      (fun file => buildAlone manifest time (tree.drawn (draws file)) file) summary
      (tree.putAll parts found.files) := by
  have value : ∀ file ∈ found.files,
      withoutNames (buildAlone manifest time (tree.drawn (draws file)) file).1 =
        (parts file).value := fun file member =>
    ((builds file member).performs _ ((StageOf.refl tree).drawn _)).1
  have made : ∀ file ∈ found.files, ∀ job,
      (buildAlone manifest time (tree.drawn (draws file)) file).1 = .ok job ↔
        (parts file).value = .ok job := fun file member job => by
    rw [← value file member, withoutNames_eq_ok_iff]
  have generated : summary.generated = (summaryOf parts found).generated := by
    rw [← sums]
    rfl
  refine ⟨?_, ?_, ?_, outputs, ?_, fun _ free => content?_putAll builds (generated ▸ free)⟩
  · rw [generated, generated_summaryOf]
    refine List.filterMap_congr fun file member => ?_
    rw [← value file member, ← withoutNames_map]
    cases (buildAlone manifest time (tree.drawn (draws file)) file).1 <;> rfl
  · rw [sums, failed_summaryOf]
    refine congrArg _ (List.filterMap_congr fun file member => ?_)
    rw [value file member]
  · intro file member job alone
    rw [made file member] at alone
    obtain ⟨text, there, _⟩ := (builds file member).made job alone
    exact ⟨text, (builds file member).readText_alone ((StageOf.refl tree).drawn _) alone there,
      readText_putAll builds distinct member alone there⟩
  · rw [generated]
    exact apart_putAll builds distinct each

end Product

/-! ### Building a tree -/

/-- A run has a status other than zero exactly when a schema failed. -/
theorem status_outcome_ne_zero_iff (summary : Summary) (heading : String) :
    (summary.outcome heading).status ≠ 0 ↔ summary.failed ≠ [] := by
  unfold Summary.outcome Outcome.unlessFailed
  dsimp only
  split
  · next none => simpa using List.eq_nil_of_length_eq_zero none
  · next some =>
    exact iff_of_true Nat.one_ne_zero fun none => some (by rw [none]; rfl)

/-- A summary is printed as it is. -/
theorem run_buildAll {manifest : Manifest} {time : Int} {tree after : FileTree} {root : Path}
    {summary : Summary} {given : Option Path} (goes : given.getD manifest.sourceRoot = root)
    (built : perform (buildTree manifest root time) tree = (.ok summary, after)) :
    ((Command.buildAll given).run manifest time : StateM FileTree Outcome).run tree =
      (summary.outcome ("Building schemas under " ++ root.text), after) := by
  subst goes
  have ran : (buildTree manifest (given.getD manifest.sourceRoot) time :
      ExceptT Failure (StateM FileTree) Summary).run.run tree = (.ok summary, after) := built
  unfold Command.run
  dsimp only
  rw [StateT.run_bind, ran]
  rfl

section Found

variable {manifest : Manifest} {tree : FileTree} {root : Path} {found : Discovery}

/-- What cannot be read has no temporary file. -/
theorem unnamed_of_unreadable {extension : String}
    (discovered : (perform (discover root extension) tree).1 = .ok found) :
    ∀ entry ∈ found.unreadable, entry.2.unnamed = entry.2 := by
  obtain ⟨base, rooted, _⟩ := exists_base_of_discover discovered
  rintro ⟨path, failure⟩ member
  obtain ⟨names, cause, _, rfl, _⟩ := (mem_unreadable_iff discovered rooted).mp member
  rfl

/-- **The schemas that are found** have different modules, and each comes to a part of its own. -/
theorem exists_builds_of_discover (valid : manifest.validate = .ok ())
    (noPoint : '.' ∉ manifest.outputExtension.toList)
    (noSlash : '/' ∉ manifest.outputExtension.toList) (wellFormed : tree.WellFormed)
    (discovered : (perform (discover root manifest.schemaExtension) tree).1 = .ok found)
    (time : Int) :
    (found.files.map (outputPath manifest)).Nodup ∧
      ∃ parts : Path → Part (Except Failure Job),
        (∀ file ∈ found.files, Builds manifest time tree file (parts file)) ∧
        ∀ file ∈ found.files, ∀ other ∈ found.files, file ≠ other →
          (parts file).goal ≠ (parts other).goal := by
  obtain ⟨_, notEmpty, _⟩ := Manifest.validate_eq_ok_iff.mp valid
  have filled : manifest.outputExtension.toList ≠ [] := by simpa using notEmpty
  obtain ⟨base, rooted, _⟩ := exists_base_of_discover discovered
  choose! directories name place using fun file (member : file ∈ found.files) =>
    exists_foundAt discovered wellFormed rooted member
  have inhabited : Nonempty Content := ⟨.text ""⟩
  choose! content here using fun file (member : file ∈ found.files) => (place file member).content
  refine ⟨?_, fun file => partOf manifest time tree (base ++ directories file)
    (withSuffix (stem (name file)) manifest.outputExtension) file (content file).read,
    fun file member => (place file member).builds valid noPoint noSlash (here file member) time, ?_⟩
  · refine List.Nodup.map_on (fun file member other member' same => ?_)
      (nodup_of_discover discovered wellFormed)
    have goes : outputPath manifest file =
        .ok (file.dropExtension.setExtension manifest.outputExtension) :=
      outputPath_eq_ok_iff.mpr (if_neg noSlash)
    exact (place file member).eq_of_output (place other member') filled goes (same ▸ goes)
  · intro file member other member' differ' same
    rw [goal_partOf, goal_partOf, List.append_assoc, List.append_assoc,
      List.append_cancel_left_eq] at same
    obtain ⟨sameDirectories, sameName⟩ := List.append_inj' same rfl
    have sameStem := Path.withSuffix_injective filled (List.cons.inj sameName).1
    have first := place file member
    rw [sameDirectories] at first
    exact differ' (first.eq_of_stem (place other member') sameStem)

end Found

/-- **Building a tree is a product of independent builds.** Below a directory every schema is found
once, in the order of the paths, and so is what cannot be read; nothing is both. Whatever the order
in which the schemas are built, and also when they are built side by side, the summary and the tree
are as if each of them had been built alone, but for the names of temporary files. The modules are
listed in the order of the schemas; the failures are those of what cannot be read and then those of
schemas, each in order. The command fails exactly when there is one. -/
theorem buildTree_isProduct {manifest : Manifest} (valid : manifest.validate = .ok ())
    (noPoint : '.' ∉ manifest.outputExtension.toList)
    (noSlash : '/' ∉ manifest.outputExtension.toList) {tree : FileTree}
    (wellFormed : tree.WellFormed) (root : Path) (time : Int) :
    (tree.isDirectory root = false ∧
      perform (buildTree manifest root time) tree = (.error (.rootNotADirectory root), tree)) ∨
    ∃ (found : Discovery) (summary : Summary) (after : FileTree),
      (perform (discover root manifest.schemaExtension) tree).1 = .ok found ∧
      found.files.Pairwise Path.Before ∧ found.files.Nodup ∧
      (found.unreadable.map (·.1)).Pairwise Path.Before ∧
      (∀ file ∈ found.files, file ∉ found.unreadable.map (·.1)) ∧
      (∀ draws : Path → Nat, IsProduct manifest tree found
        (fun file => buildAlone manifest time (tree.drawn (draws file)) file) summary after) ∧
      (∀ order : List Path, order.Perm found.files →
        ∃ other, other.unnamed = summary.unnamed ∧
          perform (buildInOrder manifest time found order) tree = (.ok other, after)) ∧
      (∀ crew, Crew.Reaches found.files (buildTogether manifest time tree) crew →
        (∃ other, Crew.Reaches found.files crew other ∧ other.Finished found.files) ∧
        (crew.Finished found.files → crew.tree = after ∧
          ∃ results : List (Path × Except Failure Path),
            List.Forall₂ (fun file result => crew.steps file = .done (.ok result)) found.files
              results ∧
            (Summary.ofResults found.unreadable results).unnamed = summary.unnamed)) ∧
      perform (buildTree manifest root time) tree = (.ok summary, after) ∧
      ∀ given : Option Path, given.getD manifest.sourceRoot = root →
        ((Command.buildAll given).run manifest time : StateM FileTree Outcome).run tree =
          (summary.outcome ("Building schemas under " ++ root.text), after) ∧
        ((summary.outcome ("Building schemas under " ++ root.text)).status ≠ 0 ↔
          summary.failed ≠ []) := by
  cases isDirectory : tree.isDirectory root with
  | false =>
    refine .inl ⟨rfl, ?_⟩
    unfold buildTree
    rw [perform_bind, perform_discover, isDirectory]
    rfl
  | true =>
    right
    have discovered : ∃ found,
        (perform (discover root manifest.schemaExtension) tree).1 = .ok found := by
      rw [perform_discover, isDirectory]
      exact ⟨_, rfl⟩
    obtain ⟨found, discovered⟩ := discovered
    obtain ⟨outputs, parts, builds, distinct⟩ :=
      exists_builds_of_discover valid noPoint noSlash wellFormed discovered time
    have each := nodup_of_discover discovered wellFormed
    have plain := unnamed_of_unreadable discovered
    obtain ⟨outcome, seen, ran⟩ := perform_mapM_buildFile builds each (.refl tree)
    have sums := unnamed_eq_summaryOf plain seen
    have built : perform (buildTree manifest root time) tree =
        (.ok _, tree.putAll parts found.files) :=
      perform_buildTree_eq_ok_iff.mpr ⟨found, _, discovered, ran, rfl⟩
    refine ⟨found, _, _, discovered, sorted_files discovered wellFormed, each,
      sorted_unreadable discovered wellFormed,
      fun file member => not_mem_unreadable discovered wellFormed member,
      isProduct_putAll builds distinct each outputs sums, fun order perm => ?_,
      fun crew reached => ?_, built, fun given goes => ⟨run_buildAll goes built, status_outcome_ne_zero_iff _ _⟩⟩
    · obtain ⟨other, same, ran⟩ := perform_buildInOrder builds distinct plain each perm
      exact ⟨other, same.trans sums.symm, ran⟩
    · refine ⟨crew.exists_finished found.files, fun finished => ?_⟩
      obtain ⟨⟨outcome, ended⟩, same⟩ := eq_of_finished_buildFile builds distinct reached finished
      refine ⟨same, found.files.map fun file => (file, outcome file), ?_, ?_⟩
      · rw [List.forall₂_map_right_iff]
        exact List.forall₂_same.mpr fun file member => (ended file member).2
      · exact (unnamed_eq_summaryOf plain fun file member => (ended file member).1).trans sums.symm

/-- A schema that gives a module and one that is not finished can be built in both orders. -/
theorem drafts_isProduct :
    Manifest.validate {} = .ok () ∧ '.' ∉ ({} : Manifest).outputExtension.toList ∧
      '/' ∉ ({} : Manifest).outputExtension.toList ∧ drafts.WellFormed ∧
      ∃ summary after, perform (buildTree {} ⟨"."⟩ 0) drafts = (.ok summary, after) ∧
        (∃ other, other.unnamed = summary.unnamed ∧
          perform (buildInOrder {} 0 ⟨[⟨"./A.Gen.yaml"⟩, ⟨"./A.yaml"⟩], []⟩
            [⟨"./A.yaml"⟩, ⟨"./A.Gen.yaml"⟩]) drafts = (.ok other, after)) ∧
        IsProduct {} drafts ⟨[⟨"./A.Gen.yaml"⟩, ⟨"./A.yaml"⟩], []⟩
          (fun file => buildAlone {} 0 (drafts.drawn 1) file) summary after ∧
        summary.generated = [⟨"./A.elm"⟩] ∧ summary.failed.map (·.1) = [⟨"./A.Gen.yaml"⟩] := by
  have valid : Manifest.validate {} = .ok () := by decide +kernel
  have noPoint : '.' ∉ ({} : Manifest).outputExtension.toList := by decide
  have noSlash : '/' ∉ ({} : Manifest).outputExtension.toList := by decide
  have isDirectory : drafts.isDirectory ⟨"."⟩ = true := by decide +kernel
  have discovered : (perform (discover ⟨"."⟩ "yaml") drafts).1 =
      .ok ⟨[⟨"./A.Gen.yaml"⟩, ⟨"./A.yaml"⟩], []⟩ := by decide +kernel
  obtain ⟨missing, _⟩ |
      ⟨found, summary, after, discovered', _, _, _, _, product, anyOrder, _, built, _⟩ :=
    buildTree_isProduct valid noPoint noSlash drafts_wellFormed ⟨"."⟩ 0
  · rw [isDirectory] at missing
    cases missing
  obtain rfl := Except.ok.inj (discovered.symm.trans discovered')
  have sums : (perform (buildTree {} ⟨"."⟩ 0) drafts).1.map
      (fun summary => (summary.generated, summary.failed.map (·.1))) =
        .ok ([⟨"./A.elm"⟩], [⟨"./A.Gen.yaml"⟩]) := by decide +kernel
  rw [built] at sums
  obtain ⟨generated, failed⟩ := Prod.mk.inj (Except.ok.inj sums)
  exact ⟨valid, noPoint, noSlash, drafts_wellFormed, summary, after, built,
    anyOrder _ (.swap ..), product fun _ => 1, generated, failed⟩

/-- Two schemas that give modules, one that is not finished, and a directory that cannot be
listed. -/
def guarded : FileTree where
  entries := ⟨[
    (["A.F.yaml"], .file "name: s\nversion: 1\nobjects:\n  A:\n    fields: \x7b\x7d\n"),
    (["A.yaml"], .file "name: s\nversion: 1\nobjects:\n  A:\n    fields: \x7b\x7d\n"),
    (["B.yaml"], .file "name: Draft\n"), (["Z"], .directory)], by decide⟩
  refusals := ⟨[(["Z"], { listing := some .denied })], by decide⟩

theorem guarded_wellFormed : guarded.WellFormed := .of_keys (by decide)

/-- Neither list is in the order of its own paths. The module of a schema need not stand where the
schema does, and what cannot be read stands in front. -/
theorem outputs_out_of_order :
    Manifest.validate { outputExtension := "Elm" } = .ok () ∧ '.' ∉ "Elm".toList ∧
      '/' ∉ "Elm".toList ∧ guarded.WellFormed ∧
      ∃ summary after,
        perform (buildTree { outputExtension := "Elm" } ⟨"."⟩ 0) guarded = (.ok summary, after) ∧
        summary.generated = [⟨"./A.F.Elm"⟩, ⟨"./A.Elm"⟩] ∧
        ¬ summary.generated.Pairwise Path.Before ∧
        summary.failed.map (·.1) = [⟨"./Z"⟩, ⟨"./B.yaml"⟩] ∧
        ¬ (summary.failed.map (·.1)).Pairwise Path.Before := by
  have sums : (perform (buildTree { outputExtension := "Elm" } ⟨"."⟩ 0) guarded).1.map
      (fun summary => (summary.generated, summary.failed.map (·.1))) =
        .ok ([⟨"./A.F.Elm"⟩, ⟨"./A.Elm"⟩], [⟨"./Z"⟩, ⟨"./B.yaml"⟩]) := by decide +kernel
  rcases ran : perform (buildTree { outputExtension := "Elm" } ⟨"."⟩ 0) guarded with
    ⟨outcome, after⟩
  rw [ran] at sums
  obtain ⟨summary, rfl, same⟩ := map_eq_ok_iff.mp sums
  obtain ⟨generated, failed⟩ := Prod.mk.inj same
  refine ⟨by decide +kernel, by decide, by decide, guarded_wellFormed, summary, after, rfl,
    generated, ?_, failed, ?_⟩
  · rw [generated]
    decide
  · rw [failed]
    decide

end ElmCodec
