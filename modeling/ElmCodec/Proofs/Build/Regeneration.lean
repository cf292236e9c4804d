/-
**Building a tree a second time changes nothing.**

Modules are put in the directories of their schemas, under names that no schema has. A second run
therefore finds what the first one found. Each schema comes to what it came to before, and a text
that is put in its place once more is there already. Only the names of temporary files are drawn
anew, and a failure may tell one.

* `TreeRun` — a run of building a tree, of schemas in any order or side by side.
* `TreeRun.eq_of_builds` — **a run comes to one result**, in whatever order.
* `FileTree.discover_of_stage` — **the same is found** at every stage of a run.
* `FileTree.WellFormed.putAll` — the tree stays as on a disk.
* `buildTree_idempotent` — **building a tree twice** is building it once.
* `chains_tell_names` — failures that tell different names.
-/

import ElmCodec.Proofs.Build.Independence

namespace ElmCodec

open FileTree

/-! ### Runs -/

/-- **A run of building a tree.** The schemas that are found are built one after the other, in any
order, or side by side. -/
inductive TreeRun (manifest : Manifest) (root : Path) (time : Int) (tree : FileTree) :
    Except Failure Summary → FileTree → Prop where
  | inTurn {result : Except Failure Summary} {after : FileTree}
      (ran : perform (buildTree manifest root time) tree = (result, after)) :
      TreeRun manifest root time tree result after
  | reordered {found : Discovery} {order : List Path} {result : Except Failure Summary}
      {after : FileTree}
      (discovered : (perform (discover root manifest.schemaExtension) tree).1 = .ok found)
      (perm : order.Perm found.files)
      (ran : perform (buildInOrder manifest time found order) tree = (result, after)) :
      TreeRun manifest root time tree result after
  | together {found : Discovery}
      {crew : Crew (Except Failure (Path × Except Failure Path))}
      {outcome : Path → Except Failure (Path × Except Failure Path)}
      (discovered : (perform (discover root manifest.schemaExtension) tree).1 = .ok found)
      (reached : Crew.Reaches found.files (buildTogether manifest time tree) crew)
      (ended : ∀ file ∈ found.files, crew.steps file = .done (outcome file)) :
      TreeRun manifest root time tree
        ((found.files.mapM outcome).map (.ofResults found.unreadable)) crew.tree

section Run

variable {manifest : Manifest} {time : Int} {tree : FileTree} {root : Path} {found : Discovery}
variable {result : Except Failure Summary} {after : FileTree}

/-- Every tree can be built. -/
theorem treeRun_perform (manifest : Manifest) (root : Path) (time : Int) (tree : FileTree) :
    TreeRun manifest root time tree (perform (buildTree manifest root time) tree).1
      (perform (buildTree manifest root time) tree).2 :=
  .inTurn (Prod.eta _).symm

/-- Where no schemas can be looked for nothing is built. -/
theorem TreeRun.eq_of_refused {failure : Failure}
    (refused : (perform (discover root manifest.schemaExtension) tree).1 = .error failure)
    (run : TreeRun manifest root time tree result after) :
    result = .error failure ∧ after = tree := by
  cases run with
  | inTurn ran =>
    have discovered : perform (discover root manifest.schemaExtension) tree =
        (.error failure, tree) := Prod.ext refused (by rw [perform_discover])
    rw [buildTree, perform_bind, discovered] at ran
    exact Prod.mk.inj ran.symm
  | reordered discovered => cases refused.symm.trans discovered
  | together discovered => cases refused.symm.trans discovered

variable {parts : Path → Part (Except Failure Job)}
variable (discovered : (perform (discover root manifest.schemaExtension) tree).1 = .ok found)
variable (each : found.files.Nodup)
variable (builds : ∀ file ∈ found.files, Builds manifest time tree file (parts file))
include discovered each builds

/-- **In whatever order they are built**, the schemas come to their parts. -/
theorem TreeRun.eq_of_builds (distinct : ∀ file ∈ found.files, ∀ other ∈ found.files,
      file ≠ other → (parts file).goal ≠ (parts other).goal)
    (run : TreeRun manifest root time tree result after) :
    result.map Summary.unnamed = .ok (summaryOf parts found) ∧
      after = tree.putAll parts found.files := by
  have plain := unnamed_of_unreadable discovered
  cases run with
  | inTurn ran =>
    obtain ⟨outcome, seen, ran'⟩ := perform_mapM_buildFile builds each (.refl tree)
    rw [perform_buildTree_eq_ok_iff.mpr ⟨found, _, discovered, ran', rfl⟩] at ran
    obtain ⟨rfl, rfl⟩ := Prod.mk.inj ran
    exact ⟨congrArg Except.ok (unnamed_eq_summaryOf plain seen), rfl⟩
  | reordered discovered' perm ran =>
    obtain rfl := Except.ok.inj (discovered.symm.trans discovered')
    obtain ⟨summary, same, ran'⟩ := perform_buildInOrder builds distinct plain each perm
    obtain ⟨rfl, rfl⟩ := Prod.mk.inj (ran'.symm.trans ran)
    exact ⟨congrArg Except.ok same, rfl⟩
  | @together _ crew outcome discovered' reached ended =>
    obtain rfl := Except.ok.inj (discovered.symm.trans discovered')
    obtain ⟨⟨results, values⟩, same⟩ := eq_of_finished_buildFile builds distinct reached
      fun file member => ⟨_, ended file member⟩
    have outcomes : found.files.mapM outcome =
        .ok (found.files.map fun file => (file, results file)) := by
      rw [mapM_eq_ok_iff, List.forall₂_map_right_iff, List.forall₂_same]
      exact fun file member =>
        Steps.done.inj ((ended file member).symm.trans (values file member).2)
    rw [outcomes]
    exact ⟨congrArg Except.ok (unnamed_eq_summaryOf plain fun file member =>
      (values file member).1), same⟩

end Run

/-! ### What a second run finds -/

namespace FileTree

variable {tree stage : FileTree} {root : Path} {extension : String}

/-- What is found in a tree is listed at every stage. -/
theorem listed_of_stage (wellFormed : tree.WellFormed) (ofStage : StageOf extension tree stage)
    {base names : Location} (rooted : tree.locate root = .ok base)
    (isDirectory : tree.entry? base = some .directory)
    (listed : names ∈ (tree.survey root).files)
    (named : (names.foldl Path.join root).extension? = some extension) :
    names ∈ (stage.survey root).files := by
  obtain ⟨directories, name, rfl, place⟩ :=
    wellFormed.exists_foundAt_of_listed rooted isDirectory listed named
  exact (place.at_stage ofStage).listed

/-- **At every stage of a run the same is found**, in the same order. -/
theorem discover_of_stage (before : tree.WellFormed) (later : stage.WellFormed)
    (ofStage : StageOf extension tree stage) (root : Path) :
    (perform (discover root extension) stage).1 = (perform (discover root extension) tree).1 := by
  have sameRoot : ∀ {base}, stage.locate root = .ok base ∧ stage.entry? base = some .directory ↔
      tree.locate root = .ok base ∧ tree.entry? base = some .directory := fun {base} => by
    rw [ofStage.directories base]
    exact and_congr_left fun _ =>
      ⟨ofStage.symm.keepsDirectories.locate, ofStage.keepsDirectories.locate⟩
  have sameDirectory : stage.isDirectory root = tree.isDirectory root := by
    rw [Bool.eq_iff_iff, isDirectory_iff, isDirectory_iff]
    exact exists_congr fun base => sameRoot
  rw [perform_discover, perform_discover, sameDirectory]
  cases isDirectory : tree.isDirectory root with
  | false => rfl
  | true =>
    obtain ⟨base, here⟩ := isDirectory_iff.mp isDirectory
    have there := sameRoot.mpr here
    -- The lists are in order, so that it is enough that they have the same members.
    have sameLocations : (sortLocations (stage.survey root).files).filter
          ((·.extension? == some extension) ∘ (·.foldl Path.join root)) =
        (sortLocations (tree.survey root).files).filter
          ((·.extension? == some extension) ∘ (·.foldl Path.join root)) := by
      refine List.Pairwise.eq_of_mem_iff ((OrderedMap.keys_ascending _).filter _)
        ((OrderedMap.keys_ascending _).filter _) fun names => ?_
      simp only [List.mem_filter, mem_sortLocations, Function.comp_apply, beq_iff_eq]
      refine and_congr_left fun named => ⟨fun listed => ?_, fun listed => ?_⟩
      · exact listed_of_stage later ofStage.symm there.1 there.2 listed named
      · exact listed_of_stage before ofStage here.1 here.2 listed named
    have sameRefusals : OrderedMap.ofList (stage.survey root).unreadable =
        OrderedMap.ofList (tree.survey root).unreadable := by
      refine OrderedMap.eq_of_mem_iff fun (names, cause) => ?_
      rw [mem_ofList_unreadable there.1, mem_ofList_unreadable here.1,
        mem_survey_unreadable_iff there.1, mem_survey_unreadable_iff here.1,
        ofStage.directories, ofStage.canReach_eq, ofStage.refusalsAt]
    simp only [if_true, Discovery.ofSurvey, List.filter_map, sameLocations, sameRefusals]

end FileTree

/-! ### What a second run does -/

namespace FileTree.WellFormed

/-- A tree in another run is as on a disk. -/
theorem drawn {tree : FileTree} (wellFormed : tree.WellFormed) (draw : Nat) :
    (tree.drawn draw).WellFormed :=
  ⟨wellFormed.named, wellFormed.above, wellFormed.proper, wellFormed.plain⟩

variable {manifest : Manifest} {time : Int} {tree stage : FileTree} {files : List Path}
variable {parts : Path → Part (Except Failure Job)}

/-- A module is put where a tree stays as on a disk. -/
theorem put_part (wellFormed : stage.WellFormed) {file : Path}
    (builds : Builds manifest time tree file (parts file))
    (ofStage : StageOf manifest.schemaExtension tree stage) :
    (stage.put (parts file).goal (parts file).text?).WellFormed := by
  cases there : (parts file).text? with
  | none => exact wellFormed
  | some text =>
    have free : stage.entry? (parts file).goal ≠ some .directory :=
      mt (ofStage.directories _).mp (builds.free (by simp [there]))
    cases made : (parts file).value with
    | error failure =>
      rw [builds.failed failure made] at there
      cases there
    | ok job =>
      obtain ⟨_, _, leads⟩ := builds.made job made
      obtain ⟨directory, name, goal, above, proper, plain⟩ :=
        wellFormed.exists_name_of_locate (ofStage.keepsDirectories.locate leads) free
      rw [goal] at free ⊢
      exact wellFormed.insert_file above proper plain free text

/-- **The tree stays as on a disk.** -/
theorem putAll (wellFormed : stage.WellFormed)
    (builds : ∀ file ∈ files, Builds manifest time tree file (parts file))
    (ofStage : StageOf manifest.schemaExtension tree stage) :
    (stage.putAll parts files).WellFormed := by
  induction files generalizing stage with
  | nil => exact wellFormed
  | cons file rest ih =>
    rw [List.forall_mem_cons] at builds
    exact ih (wellFormed.put_part builds.1 ofStage) builds.2 (builds.1.remains ofStage)

end FileTree.WellFormed

/-- Texts that are there already change nothing. -/
theorem putAll_eq_self {α : Type} {tree : FileTree} {parts : Path → Part α} {files : List Path}
    (there : ∀ file ∈ files, tree.put (parts file).goal (parts file).text? = tree) :
    tree.putAll parts files = tree := by
  induction files with
  | nil => rfl
  | cons file rest ih =>
    rw [List.forall_mem_cons] at there
    rw [FileTree.putAll, List.foldl_cons, there.1]
    exact ih there.2

/-- **Building a tree twice is building it once.** Whatever run there was, a run on the tree that it
left finds the same in the same order, gives the same summary with the same failures, but for the
names of temporary files, which every run draws anew, and changes nothing. This holds of runs in any
order and of schemas that are built side by side. -/
theorem buildTree_idempotent {manifest : Manifest} (valid : manifest.validate = .ok ())
    (noPoint : '.' ∉ manifest.outputExtension.toList)
    (noSlash : '/' ∉ manifest.outputExtension.toList) {tree : FileTree}
    (wellFormed : tree.WellFormed) (root : Path) (time : Int) {result : Except Failure Summary}
    {after : FileTree} (first : TreeRun manifest root time tree result after) (draw : Nat) :
    (perform (discover root manifest.schemaExtension) (after.drawn draw)).1 =
        (perform (discover root manifest.schemaExtension) tree).1 ∧
      (∃ again, again.map Summary.unnamed = result.map Summary.unnamed ∧
        perform (buildTree manifest root time) (after.drawn draw) = (again, after.drawn draw)) ∧
      ∀ again later, TreeRun manifest root time (after.drawn draw) again later →
        again.map Summary.unnamed = result.map Summary.unnamed ∧ later = after.drawn draw := by
  suffices runs : (perform (discover root manifest.schemaExtension) (after.drawn draw)).1 =
      (perform (discover root manifest.schemaExtension) tree).1 ∧
        ∀ again later, TreeRun manifest root time (after.drawn draw) again later →
          again.map Summary.unnamed = result.map Summary.unnamed ∧ later = after.drawn draw by
    obtain ⟨same, unchanged⟩ := runs
    obtain ⟨summaries, trees⟩ := unchanged _ _ (treeRun_perform manifest root time _)
    exact ⟨same, ⟨_, summaries, Prod.ext rfl trees⟩, unchanged⟩
  cases discovered : (perform (discover root manifest.schemaExtension) tree).1 with
  | error failure =>
    obtain ⟨rfl, rfl⟩ := first.eq_of_refused discovered
    have refused := (discover_of_stage wellFormed (wellFormed.drawn draw)
      ((StageOf.refl after).drawn draw) root).trans discovered
    refine ⟨refused, fun again later second => ?_⟩
    obtain ⟨rfl, rfl⟩ := second.eq_of_refused refused
    exact ⟨rfl, rfl⟩
  | ok found =>
    obtain ⟨_, parts, builds, distinct⟩ :=
      exists_builds_of_discover valid noPoint noSlash wellFormed discovered time
    have each := nodup_of_discover discovered wellFormed
    obtain ⟨sums, rfl⟩ := first.eq_of_builds discovered each builds distinct
    have ofStage := (stageOf_putAll builds (.refl tree)).drawn draw
    have rediscovered := (discover_of_stage wellFormed
      ((wellFormed.putAll builds (.refl tree)).drawn draw) ofStage root).trans discovered
    refine ⟨rediscovered, fun again later second => ?_⟩
    obtain ⟨sums', rfl⟩ := second.eq_of_builds rediscovered each
      (fun file member => (builds file member).at_stage ofStage) distinct
    refine ⟨sums'.trans sums.symm, putAll_eq_self fun file member => ?_⟩
    -- The text of the module has been put there by the first run.
    exact put_eq_self fun text there => get?_putAll distinct member there

/-- A schema that gives a module and one that is not finished come to the same once more. -/
theorem drafts_idempotent :
    Manifest.validate {} = .ok () ∧ '.' ∉ ({} : Manifest).outputExtension.toList ∧
      '/' ∉ ({} : Manifest).outputExtension.toList ∧ drafts.WellFormed ∧
      ∃ result after, TreeRun {} ⟨"."⟩ 0 drafts result after ∧ after ≠ drafts ∧
        (perform (discover ⟨"."⟩ "yaml") (after.drawn 1)).1 =
          .ok ⟨[⟨"./A.Gen.yaml"⟩, ⟨"./A.yaml"⟩], []⟩ ∧
        ∃ again, again.map Summary.unnamed = result.map Summary.unnamed ∧
          TreeRun {} ⟨"."⟩ 0 (after.drawn 1) again (after.drawn 1) := by
  have valid : Manifest.validate {} = .ok () := by decide +kernel
  have noPoint : '.' ∉ ({} : Manifest).outputExtension.toList := by decide
  have noSlash : '/' ∉ ({} : Manifest).outputExtension.toList := by decide
  have found : (perform (discover ⟨"."⟩ "yaml") drafts).1 =
      .ok ⟨[⟨"./A.Gen.yaml"⟩, ⟨"./A.yaml"⟩], []⟩ := by decide +kernel
  have changed : (perform (buildTree {} ⟨"."⟩ 0) drafts).2 ≠ drafts := by decide +kernel
  have first := treeRun_perform {} ⟨"."⟩ 0 drafts
  obtain ⟨rediscovered, ⟨again, same, ran⟩, _⟩ :=
    buildTree_idempotent valid noPoint noSlash drafts_wellFormed ⟨"."⟩ 0 first 1
  exact ⟨valid, noPoint, noSlash, drafts_wellFormed, _, _, first, changed,
    rediscovered.trans found, again, same, .inTurn ran⟩

/-- A schema in a directory that must not be changed. -/
def locked : FileTree where
  entries := ⟨[(["A.yaml"],
    .file "name: s\nversion: 1\nobjects:\n  A:\n    fields: \x7b\x7d\n")], by decide⟩
  refusals := ⟨[([], { changing := some .denied })], by decide⟩

/-- **Failures that tell different names.** The temporary file that cannot be made has another name
in the second run, and the failure tells it. -/
theorem chains_tell_names :
    Manifest.validate {} = .ok () ∧ '.' ∉ ({} : Manifest).outputExtension.toList ∧
      '/' ∉ ({} : Manifest).outputExtension.toList ∧ locked.WellFormed ∧
      ∃ summary after again later, TreeRun {} ⟨"."⟩ 0 locked (.ok summary) after ∧
        TreeRun {} ⟨"."⟩ 0 (after.drawn 1) (.ok again) later ∧
        summary.failed.map (·.1) = [⟨"./A.yaml"⟩] ∧ again.failed.map (·.1) = [⟨"./A.yaml"⟩] ∧
        summary.failed.map (·.2.chain) ≠ again.failed.map (·.2.chain) := by
  have first : (perform (buildTree {} ⟨"."⟩ 0) locked) =
      (.ok ⟨[], [(⟨"./A.yaml"⟩, .noTemporary ⟨"."⟩ (.atPath ⟨"./.tmp000000"⟩ .denied))]⟩,
        locked) := by decide +kernel
  have second : (perform (buildTree {} ⟨"."⟩ 0) (locked.drawn 1)) =
      (.ok ⟨[], [(⟨"./A.yaml"⟩, .noTemporary ⟨"."⟩ (.atPath ⟨"./.tmp0000000"⟩ .denied))]⟩,
        locked.drawn 1) := by decide +kernel
  exact ⟨by decide +kernel, by decide, by decide, .of_keys (by decide), _, _, _, _, .inTurn first,
    .inTurn second, rfl, rfl, by decide +kernel⟩

end ElmCodec
