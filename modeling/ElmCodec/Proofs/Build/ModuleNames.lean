/-
**What the name of a module says about its file.**

A name is derived from the names that lead to a file below the source root, with points between
them. The points give these names back as long as there are none in the names themselves.

* `Elm.segments_intercalate` — names without points, with points between them.
* `Path.StandsBelow` — a file stands below a directory.
* `Path.PlainBelow` — there are no points in the names that lead to it.
* `segments_eq_iff` — **a derived name leads back to the file**, and when it does not.
* `file_eq_of_moduleName` — different schemas have modules with different names.
* `moduleNames_locate_files` — **the names of the modules of a tree** lead to their files, and
  differ.
* `moduleName_shared` — what a point in the name of a file does.
-/

import ElmCodec.Proofs.Build.Outputs
import ElmCodec.Proofs.Build.Runs
import ElmCodec.Proofs.Elm.Names
import ElmCodec.Proofs.Path.Names

namespace ElmCodec

open ElmCodec.Path (stem withSuffix)

/-! ### Dotted names -/

namespace Elm

/-- Names without points are what stands between the points. -/
theorem segments_intercalate {names : List String} (inhabited : names ≠ [])
    (plain : ∀ name ∈ names, '.' ∉ name.toList) :
    segments (String.intercalate "." names) = names := by
  have plain' : ∀ letters ∈ names.map String.toList, '.' ∉ letters := by
    intro letters member
    obtain ⟨name, inside, rfl⟩ := List.mem_map.mp member
    exact plain name inside
  have inhabited' : names.map String.toList ≠ [] := by simpa using inhabited
  have cut := List.splitOn_intercalate '.' plain' inhabited'
  unfold segments
  rw [String.toList_intercalate]
  show ((['.'].intercalate (names.map String.toList)).splitOn '.').map String.ofList = names
  rw [cut, List.map_map]
  simp

theorem not_mem_segment {name segment : String} (valid : isModuleName name = true)
    (member : segment ∈ segments name) : '.' ∉ segment.toList :=
  not_mem_typeName (by decide) (List.all_eq_true.mp valid segment member)

end Elm

/-! ### Files below a directory -/

namespace Path

/-- **A file stands below a directory**: these names lead to it from there. -/
def StandsBelow (file root : Path) (directories : List String) (name : String) : Prop :=
  file.normalized = root.normalized ++ (directories ++ [name]).map .name

instance (file root : Path) (directories : List String) (name : String) :
    Decidable (file.StandsBelow root directories name) := inferInstanceAs (Decidable (_ = _))

/-- There are no points in the names that lead to a file, but for that in front of its extension. -/
def PlainBelow (file root : Path) : Prop :=
  ∀ directories name, file.StandsBelow root directories name →
    ∀ part ∈ directories ++ [stem name], '.' ∉ part.toList

/-- One way to a file tells whether there are points. -/
theorem StandsBelow.plainBelow {file root : Path} {directories : List String} {name : String}
    (stands : file.StandsBelow root directories name)
    (plain : ∀ part ∈ directories ++ [stem name], '.' ∉ part.toList) : file.PlainBelow root := by
  intro others last stands'
  have same := List.append_cancel_left (stands.symm.trans stands')
  obtain ⟨rfl, sameLast⟩ := List.append_inj'
    (List.map_injective_iff.mpr Path.nameComponent_injective same) rfl
  rwa [← (List.cons.inj sameLast).1]

/-- The point at the start does not count. -/
theorem normalized_append {path above : Path} {rest : List Component}
    (whole : path.components = above.components ++ rest) :
    path.normalized = above.normalized ++ rest.filter (· != .current) := by
  rw [normalized, whole, List.filter_append, normalized]

theorem filter_names (names : List String) :
    (names.map Component.name).filter (· != .current) = names.map .name := by
  rw [List.filter_eq_self]
  intro component member
  obtain ⟨name, _, rfl⟩ := List.mem_map.mp member
  rfl

theorem relativeTo_eq {path root : Path} {rest : List Component}
    (below : path.normalized = root.normalized ++ rest) : path.relativeTo root = rest := by
  have above : root.normalized.isPrefixOf path.normalized = true :=
    List.isPrefixOf_iff_prefix.mpr (below ▸ List.prefix_append _ _)
  unfold relativeTo
  simp only [above, if_true]
  rw [below, List.drop_left]

/-- Without its extension a file is still in its directory, or it is that directory. -/
theorem Ends.exists_tail {path above : Path} {name : String} (ends : path.Ends above name)
    (proper : isFileName name.toList = true) :
    ∃ tail, tail.length ≤ 1 ∧ path.withoutExtension.normalized = above.normalized ++ tail := by
  suffices short : ∃ rest, rest.length ≤ 1 ∧
      path.withoutExtension.components = above.components ++ rest by
    obtain ⟨rest, one, whole⟩ := short
    exact ⟨_, (List.length_filter_le _ _).trans one, normalized_append whole⟩
  rcases ends.exchange proper "" with same | ⟨_, ends'⟩
  · rw [withoutExtension, same]
    exact ends.components_put (not_mem_stem ends.plain)
  · exact ⟨[.parent], le_rfl, ends'.components⟩

/-- A name without points in front of its extension is left when the extension goes. -/
theorem Ends.normalized_withoutExtension {path above : Path} {name : String}
    (ends : path.Ends above name) (proper : isFileName name.toList = true)
    (plain : '.' ∉ (stem name).toList) :
    path.withoutExtension.normalized = above.normalized ++ [.name (stem name)] := by
  have plain' : '/' ∉ (stem name).toList := not_mem_stem ends.plain
  have proper' : isFileName (stem name).toList = true :=
    isFileName_of_plain (stem_ne_nil ends.inhabited) plain
  rcases ends.exchange proper "" with same | ⟨point, _⟩
  · have whole := (ends.put plain' proper').components_of_isFileName proper'
    rw [withoutExtension, same]
    exact normalized_append whole
  · simp [point] at plain

end Path

/-! ### What a derived name says -/

/-- A file that stands below a directory has a name at its end. -/
theorem Path.StandsBelow.exists_ends {file root : Path} {directories : List String} {name : String}
    (below : file.StandsBelow root directories name) :
    ∃ above, file.Ends above name ∧ isFileName name.toList = true ∧
      above.normalized = root.normalized ++ directories.map .name := by
  have whole : file.normalized = (root.normalized ++ directories.map .name) ++ [.name name] := by
    rw [below, List.map_append, List.append_assoc]
    rfl
  by_cases proper : isFileName file.lastPart.1 = true
  · obtain ⟨above, own, ends, proper'⟩ := exists_ends_of_isFileName proper
    have named := normalized_append (ends.components_of_isFileName proper')
    rw [whole] at named
    obtain ⟨here, last⟩ := List.append_inj' named rfl
    rw [Component.name.inj (List.cons.inj last).1]
    exact ⟨_, ends, proper', here.symm⟩
  · -- Without a name at its end the path leads upwards, or it has no names at all.
    rcases components_of_nameless (Bool.eq_false_iff.mpr proper) with idle | ⟨above, upwards⟩
    · have named : Component.name name ∈ file.normalized := by
        rw [whole]
        exact List.mem_append_right _ List.mem_cons_self
      rcases idle _ (List.mem_filter.mp named).1 with top | current
      · cases top
      · cases current
    · rw [normalized, upwards, List.filter_append] at whole
      obtain ⟨_, last⟩ := List.append_inj' whole rfl
      cases last

section Derived

variable {output root : Path} {moduleName : String}
variable (derived : deriveModuleName output root = some moduleName)
include derived

/-- What stands below the source root and has a module is a file with a name. -/
theorem exists_standsBelow {front : List Path.Component} {last : Path.Component}
    (below : output.normalized = root.normalized ++ (front ++ [last])) :
    ∃ (directories : List String) (name : String), front = directories.map .name ∧
      last = .name name ∧ output.StandsBelow root directories name := by
  suffices names : ∃ (directories : List String) (name : String),
      front = directories.map .name ∧ last = .name name by
    obtain ⟨directories, name, rfl, rfl⟩ := names
    refine ⟨directories, name, rfl, rfl, ?_⟩
    rw [Path.StandsBelow, below, List.map_append]
    rfl
  obtain ⟨_, names, found, _⟩ := deriveModuleName_eq_some_iff.mp derived
  by_cases proper : Path.isFileName output.lastPart.1 = true
  · obtain ⟨above, own, ends, proper'⟩ := Path.exists_ends_of_isFileName proper
    have whole := Path.normalized_append (ends.components_of_isFileName proper')
    rw [below, ← List.append_assoc] at whole
    obtain ⟨here, same⟩ := List.append_inj' whole rfl
    obtain ⟨tail, _, short⟩ := ends.exists_tail proper'
    rw [← here, List.append_assoc] at short
    rw [Path.relativeTo_eq short] at found
    obtain ⟨directories, _, _, rfl, _⟩ := List.append_eq_map_iff.mp found
    exact ⟨directories, _, rfl, (List.cons.inj same).1⟩
  · rw [Path.withoutExtension_of_nameless (Bool.eq_false_iff.mpr proper),
      Path.relativeTo_eq below] at found
    obtain ⟨directories, others, _, rfl, same⟩ := List.append_eq_map_iff.mp found
    obtain ⟨name, _, rfl, named, _⟩ := List.map_eq_cons_iff.mp same
    exact ⟨directories, name, rfl, named.symm⟩

/-- **A derived name leads back to the file**, without its extension, exactly when there are no
points in the names that lead there. -/
theorem segments_eq_iff {directories : List String} {name : String}
    (below : output.StandsBelow root directories name) :
    Elm.segments moduleName = directories ++ [Path.stem name] ↔
      ∀ part ∈ directories ++ [Path.stem name], '.' ∉ part.toList := by
  obtain ⟨above, ends, proper, here⟩ := below.exists_ends
  obtain ⟨valid, names, found, rfl⟩ := deriveModuleName_eq_some_iff.mp derived
  constructor
  · intro same part member
    rw [← same] at member
    exact Elm.not_mem_segment valid member
  · intro plain
    have short := ends.normalized_withoutExtension proper (plain _ (by simp))
    have whole : Path.normalized _ = root.normalized ++ (directories ++ [Path.stem name]).map .name :=
      short.trans (by rw [here, List.map_append, List.append_assoc]; rfl)
    rw [Path.relativeTo_eq whole] at found
    rw [← List.map_injective_iff.mpr Path.nameComponent_injective found]
    exact Elm.segments_intercalate (by simp) plain

end Derived

/-! ### The modules of a tree -/

section Tree

variable {manifest : Manifest} {root file other : Path} {tree : FileTree} {base : Location}
variable {directories otherDirectories : List String} {name otherName : String}
variable {job otherJob : Job} {inner : List Path.Component}

variable (filled : manifest.outputExtension.toList ≠ [])
variable (below : root.normalized = manifest.sourceRoot.normalized ++ inner)
include filled below

/-- The name of the module of a schema that is found, if there are no points in it. -/
theorem exists_segments_of_plan
    (place : FileTree.FoundAt tree root manifest.schemaExtension file base directories name)
    (planned : Job.plan manifest file none none = .ok job)
    (plain : job.output.PlainBelow manifest.sourceRoot) :
    ∃ above, inner = above.map .name ∧
      Elm.segments job.moduleName = above ++ directories ++ [stem name] := by
  obtain ⟨noSlash, same⟩ := place.output_eq_of_plan planned
  obtain ⟨_, _, derived⟩ := Job.plan_eq_ok_iff.mp planned
  rw [Option.elim_none] at derived
  obtain ⟨proper, noSlash'⟩ := place.proper_withSuffix filled noSlash
  have inside : (directories.foldl Path.join root).normalized =
      manifest.sourceRoot.normalized ++ (inner ++ directories.map .name) := by
    rw [Path.normalized_append place.components_directory, below, Path.filter_names,
      List.append_assoc]
  have whole := Path.normalized_append
    (Path.components_join place.directory_inhabited noSlash' proper)
  rw [← same, inside, List.append_assoc] at whole
  obtain ⟨names, last, front, sameLast, stands⟩ := exists_standsBelow derived whole
  obtain rfl := Path.Component.name.inj sameLast
  obtain ⟨above, behind, rfl, aboves, behinds⟩ := List.append_eq_map_iff.mp front
  obtain rfl := List.map_injective_iff.mpr Path.nameComponent_injective behinds
  have here := plain _ _ stands
  have plainStem := here (stem (withSuffix (stem name) manifest.outputExtension)) (by simp)
  refine ⟨above, aboves.symm, ?_⟩
  rw [(segments_eq_iff derived stands).mpr here, Path.stem_withSuffix filled place.stem_ne_nil
    (Path.not_mem_extension filled plainStem)]

/-- **Different schemas have modules with different names**, if there are no points in these. -/
theorem file_eq_of_moduleName
    (first : FileTree.FoundAt tree root manifest.schemaExtension file base directories name)
    (second : FileTree.FoundAt tree root manifest.schemaExtension other base otherDirectories
      otherName)
    (planned : Job.plan manifest file none none = .ok job)
    (planned' : Job.plan manifest other none none = .ok otherJob)
    (plain : job.output.PlainBelow manifest.sourceRoot)
    (plain' : otherJob.output.PlainBelow manifest.sourceRoot)
    (same : job.moduleName = otherJob.moduleName) : file = other := by
  obtain ⟨above, rfl, whole⟩ := exists_segments_of_plan filled below first planned plain
  obtain ⟨above', names, whole'⟩ := exists_segments_of_plan filled below second planned' plain'
  obtain rfl := List.map_injective_iff.mpr Path.nameComponent_injective names
  rw [same, whole', List.append_assoc, List.append_assoc, List.append_cancel_left_eq] at whole
  obtain ⟨rfl, sameStem⟩ := List.append_inj' whole rfl
  exact first.eq_of_stem second (List.cons.inj sameStem).1.symm

end Tree

/-- **A derived name of a module leads back to its file** as long as there are no points in the
names below the source root, and only then. The modules that are made of a tree then have different
names. -/
theorem moduleNames_locate_files (sourceRoot : Path) :
    (∀ {output : Path} {rest : List Path.Component} {moduleName : String},
      output.normalized = sourceRoot.normalized ++ rest → rest ≠ [] →
      deriveModuleName output sourceRoot = some moduleName →
      ∃ directories name, rest = (directories ++ [name]).map .name ∧
        (Elm.segments moduleName = directories ++ [stem name] ↔
          ∀ part ∈ directories ++ [stem name], '.' ∉ part.toList)) ∧
    ∀ {manifest : Manifest} {root : Path} {inner : List Path.Component} {tree : FileTree}
      {time : Int} {summary : Summary}, manifest.validate = .ok () →
      manifest.sourceRoot = sourceRoot → root.normalized = sourceRoot.normalized ++ inner →
      tree.WellFormed → (FileTree.perform (buildTree manifest root time) tree).1 = .ok summary →
      (∀ output ∈ summary.generated, output.PlainBelow sourceRoot) →
      ∃ jobs : List Job, jobs.map (·.output) = summary.generated ∧
        (∀ job ∈ jobs, Job.plan manifest job.input none none = .ok job) ∧
        (jobs.map (·.moduleName)).Nodup := by
  constructor
  · intro output rest moduleName below inhabited derived
    rcases List.eq_nil_or_concat' rest with none | ⟨front, last, rfl⟩
    · exact absurd none inhabited
    · obtain ⟨directories, name, rfl, rfl, stands⟩ := exists_standsBelow derived below
      exact ⟨directories, name, by rw [List.map_append]; rfl, segments_eq_iff derived stands⟩
  · rintro manifest root inner tree time summary valid rfl below wellFormed built plain
    have filled : manifest.outputExtension.toList ≠ [] := by
      simpa using (Manifest.validate_eq_ok_iff.mp valid).2.1
    obtain ⟨files, found, jobs, outputs, inputs, planned⟩ := exists_jobs_of_buildTree built
    obtain ⟨base, rooted, _⟩ := FileTree.exists_base_of_discover found
    have distinct : (jobs.map (·.input)).Nodup :=
      (FileTree.nodup_of_discover found wellFormed).sublist inputs
    refine ⟨jobs, outputs, planned, List.Nodup.map_on ?_ distinct.of_map⟩
    intro job member otherJob member' same
    have place := FileTree.exists_foundAt found wellFormed rooted
      (inputs.subset (List.mem_map_of_mem member))
    have place' := FileTree.exists_foundAt found wellFormed rooted
      (inputs.subset (List.mem_map_of_mem member'))
    obtain ⟨directories, name, place⟩ := place
    obtain ⟨directories', name', place'⟩ := place'
    have generated : ∀ job ∈ jobs, job.output ∈ summary.generated :=
      fun job member => outputs ▸ List.mem_map_of_mem member
    have sameFile := file_eq_of_moduleName filled below place place' (planned job member)
      (planned otherJob member') (plain _ (generated job member))
      (plain _ (generated otherJob member')) same
    exact List.inj_on_of_nodup_map distinct member member' sameFile

/-- Two schemas with one record each, one of them in a directory of its own. -/
def library (name : String) : FileTree :=
  let schema : Entry := .file "name: s\nversion: 1\nobjects:\n  A:\n    fields: \x7b\x7d\n"
  (((({} : FileTree).insert ["src"] .directory).insert ["src", "Api"] .directory).insert
    ["src", "Api", "Objects.yaml"] schema).insert ["src", name] schema

/-- Without points the names lead back, and they differ. -/
theorem library_moduleNames :
    (∃ directories name, [Path.Component.name "Api", .name "Objects.elm"] =
        (directories ++ [name]).map .name ∧
      (Elm.segments "Api.Objects" = directories ++ [stem name] ↔
        ∀ part ∈ directories ++ [stem name], '.' ∉ part.toList)) ∧
    ∃ summary, (FileTree.perform (buildTree {} ⟨"src"⟩ 0) (library "Objects.yaml")).1 = .ok summary ∧
      ∃ jobs : List Job, jobs.map (·.output) = summary.generated ∧
        (∀ job ∈ jobs, Job.plan {} job.input none none = .ok job) ∧
        (jobs.map (·.moduleName)).Nodup := by
  have below : (Path.mk "src/Api/Objects.elm").normalized =
      (Path.mk "src").normalized ++ [.name "Api", .name "Objects.elm"] := by decide +kernel
  have derived : deriveModuleName ⟨"src/Api/Objects.elm"⟩ ⟨"src"⟩ = some "Api.Objects" := by
    decide +kernel
  have valid : Manifest.validate {} = .ok () := by decide +kernel
  have built : (FileTree.perform (buildTree {} ⟨"src"⟩ 0) (library "Objects.yaml")).1 =
      .ok ⟨[⟨"src/Api/Objects.elm"⟩, ⟨"src/Objects.elm"⟩], []⟩ := by decide +kernel
  have inside : (Path.mk "src").normalized = (Manifest.sourceRoot {}).normalized ++ [] := by
    decide +kernel
  refine ⟨(moduleNames_locate_files _).1 below (by simp) derived, _, built,
    (moduleNames_locate_files _).2 valid rfl inside (.of_keys (by decide +kernel)) built ?_⟩
  intro output member
  rcases List.mem_pair.mp member with rfl | rfl
  · have stands : (Path.mk "src/Api/Objects.elm").StandsBelow ⟨"src"⟩ ["Api"] "Objects.elm" := below
    exact stands.plainBelow (by decide +kernel)
  · have stands : (Path.mk "src/Objects.elm").StandsBelow ⟨"src"⟩ [] "Objects.elm" := by
      decide +kernel
    exact stands.plainBelow (by decide +kernel)

/-- A point in the name of a file makes its module a namesake of the module of another file. -/
theorem moduleName_shared :
    deriveModuleName ⟨"src/Api.Objects.elm"⟩ ⟨"src"⟩ = some "Api.Objects" ∧
      (Path.mk "src/Api.Objects.elm").StandsBelow ⟨"src"⟩ [] "Api.Objects.elm" ∧
      Elm.segments "Api.Objects" ≠ [stem "Api.Objects.elm"] ∧
      ∃ manifest : Manifest, manifest.validate = .ok () ∧ manifest.sourceRoot = ⟨"src"⟩ ∧
        ∃ tree : FileTree, tree.WellFormed ∧
          (FileTree.perform (buildTree manifest ⟨"src"⟩ 0) tree).1 = .ok
            ⟨[⟨"src/Api/Objects.elm"⟩, ⟨"src/Api.Objects.elm"⟩], []⟩ ∧
          deriveModuleName ⟨"src/Api/Objects.elm"⟩ ⟨"src"⟩ = some "Api.Objects" := by
  have valid : Manifest.validate {} = .ok () := by decide +kernel
  refine ⟨by decide +kernel, by decide +kernel, by decide +kernel, {}, valid, rfl,
    library "Api.Objects.yaml", .of_keys (by decide +kernel), by decide +kernel, by decide +kernel⟩

end ElmCodec
