/-
**Where the modules of schemas go.**

A schema that is found has its module in its own directory, under its name with another extension.

* `FileTree.FoundAt.eq_of_stem` — the schemas of a directory have different stems.
* `deriveModuleName_of_upwards` — a path that leads upwards has no module.
* `FileTree.FoundAt.output_cases`, `FileTree.FoundAt.output_eq_of_plan` — **the path of the module**
  of a schema that is found.
* `FileTree.FoundAt.eq_of_output` — different schemas have modules at different paths.
-/

import ElmCodec.Proofs.Build.Discovery
import ElmCodec.Proofs.Build.Plan
import ElmCodec.Proofs.Path.Names

namespace ElmCodec

open ElmCodec.Path (stem withSuffix)

/-! ### Paths that lead upwards -/

/-- What stands below a directory is at the end of a path. -/
theorem Path.relativeTo_isSuffix (path root : Path) : path.relativeTo root <:+ path.normalized := by
  unfold relativeTo
  dsimp only
  split
  · exact List.drop_suffix _ _
  · exact List.suffix_refl _

/-- **A path that leads upwards** has no module. -/
theorem deriveModuleName_of_upwards {output above sourceRoot : Path}
    (ends : output.Ends above "..") : deriveModuleName output sourceRoot = none := by
  rw [Option.eq_none_iff_forall_ne_some]
  intro moduleName derived
  obtain ⟨valid, names, found, rfl⟩ := deriveModuleName_eq_some_iff.mp derived
  have nameless : Path.isFileName output.lastPart.1 = false := by
    rw [ends.lastPart]
    rfl
  rw [Path.withoutExtension_of_nameless nameless] at found
  obtain ⟨before, whole⟩ := output.relativeTo_isSuffix sourceRoot
  have upwards : output.normalized = above.normalized ++ [.parent] := by
    rw [Path.normalized, ends.components, List.filter_append, Path.normalized]
    rfl
  rcases List.eq_nil_or_concat' names with rfl | ⟨others, last, rfl⟩
  · exact absurd valid (by decide)
  · rw [found, upwards, List.map_append, ← List.append_assoc] at whole
    obtain ⟨_, same⟩ := List.append_inj' whole rfl
    cases same

namespace FileTree.FoundAt

variable {tree : FileTree} {root file other output : Path} {extension : String} {base : Location}
variable {directories : List String} {name otherName : String}

/-! ### The name of a schema -/

theorem toList_name (place : FoundAt tree root extension file base directories name) :
    name.toList = (stem name).toList ++ '.' :: extension.toList := by
  have named := place.extension
  rw [stem, String.toList_ofList]
  rcases Path.splitName_cases name.toList with whole | ⟨front, ending, cut, _, _, whole⟩
  · rw [whole] at named
    cases named
  · rw [cut] at named ⊢
    obtain rfl := Option.some.inj named
    exact whole

theorem stem_ne_nil (place : FoundAt tree root extension file base directories name) :
    (stem name).toList ≠ [] := by
  obtain ⟨proper, _⟩ := place.proper name (by simp)
  exact Path.stem_ne_nil (Path.isFileName_eq_true_iff.mp proper).1

/-- The schemas of a directory have different stems. -/
theorem eq_of_stem (first : FoundAt tree root extension file base directories name)
    (second : FoundAt tree root extension other base directories otherName)
    (same : stem name = stem otherName) : file = other := by
  have sameName : name = otherName := by
    rw [← String.toList_inj, first.toList_name, second.toList_name, same]
  exact first.unique second (by rw [sameName])

/-! ### Its module -/

theorem directory_inhabited (place : FoundAt tree root extension file base directories name) :
    (directories.foldl Path.join root).text.toList ≠ [] :=
  (isOutside_eq_false_iff.mp (locate_eq_ok_iff.mp place.directory).1).1

theorem components_directory (place : FoundAt tree root extension file base directories name) :
    (directories.foldl Path.join root).components = root.components ++ directories.map .name :=
  (Path.components_foldl_join place.inhabited
    fun part member => place.proper part (List.mem_append_left [name] member)).2

/-- With another extension the name of a schema is still one. -/
theorem proper_withSuffix (place : FoundAt tree root extension file base directories name)
    {suffix : String} (filled : suffix.toList ≠ []) (plain : '/' ∉ suffix.toList) :
    Path.isFileName (withSuffix (stem name) suffix).toList = true ∧
      '/' ∉ (withSuffix (stem name) suffix).toList := by
  refine ⟨Path.isFileName_withSuffix filled place.stem_ne_nil, ?_⟩
  have plain' := Path.not_mem_stem (place.proper name (by simp)).2
  rw [Path.toList_withSuffix filled]
  simp [plain, plain']

/-- **The module of a schema that is found** goes into the same directory, under the name with
another extension. Of a name that is a point in front of the extension two points are left. -/
theorem output_cases {manifest : Manifest}
    (place : FoundAt tree root extension file base directories name)
    (goes : outputPath manifest file = .ok output) :
    '/' ∉ manifest.outputExtension.toList ∧
      (output = (directories.foldl Path.join root).join
          (withSuffix (stem name) manifest.outputExtension) ∨
        stem name = "." ∧ output.Ends (directories.foldl Path.join root).slashed "..") := by
  obtain ⟨proper, plain⟩ := place.proper name (by simp)
  have ends := Path.ends_join place.directory_inhabited plain proper
  rw [← place.path] at ends
  rw [outputPath_eq_ok_iff] at goes
  unfold Path.withExtension? at goes
  split at goes
  · cases goes
  · next plain' =>
    rw [← Option.some.inj goes, Path.join_eq place.directory_inhabited]
    exact ⟨plain', ends.exchange proper manifest.outputExtension⟩

/-- **A job for a schema that is found** has its output in the same directory. -/
theorem output_eq_of_plan {manifest : Manifest} {job : Job}
    (place : FoundAt tree root extension file base directories name)
    (planned : Job.plan manifest file none none = .ok job) :
    '/' ∉ manifest.outputExtension.toList ∧
      job.output = (directories.foldl Path.join root).join
        (withSuffix (stem name) manifest.outputExtension) := by
  obtain ⟨_, goes, derived⟩ := Job.plan_eq_ok_iff.mp planned
  obtain ⟨plain, same | ⟨_, upwards⟩⟩ := place.output_cases goes
  · exact ⟨plain, same⟩
  · rw [Option.elim_none, deriveModuleName_of_upwards upwards] at derived
    cases derived

/-- The components of the path of a module are those of its directory and one more. -/
theorem components_output {manifest : Manifest}
    (place : FoundAt tree root extension file base directories name)
    (filled : manifest.outputExtension.toList ≠ [])
    (goes : outputPath manifest file = .ok output) :
    ∃ last, output.components = root.components ++ directories.map .name ++ [last] ∧
      (last = .name (withSuffix (stem name) manifest.outputExtension) ∨
        stem name = "." ∧ last = .parent) := by
  obtain ⟨noSlash, same | ⟨point, upwards⟩⟩ := place.output_cases goes
  · obtain ⟨proper, plain⟩ := place.proper_withSuffix filled noSlash
    refine ⟨_, ?_, .inl rfl⟩
    rw [same, Path.components_join place.directory_inhabited plain proper,
      place.components_directory]
  · refine ⟨_, ?_, .inr ⟨point, rfl⟩⟩
    rw [upwards.components, Path.components_slashed place.directory_inhabited,
      place.components_directory]
    rfl

/-- **Different schemas have modules at different paths.** -/
theorem eq_of_output {manifest : Manifest} {otherDirectories : List String}
    (first : FoundAt tree root extension file base directories name)
    (second : FoundAt tree root extension other base otherDirectories otherName)
    (filled : manifest.outputExtension.toList ≠ [])
    (goes : outputPath manifest file = .ok output)
    (goes' : outputPath manifest other = .ok output) : file = other := by
  obtain ⟨last, whole, named⟩ := first.components_output filled goes
  obtain ⟨last', whole', named'⟩ := second.components_output filled goes'
  rw [whole', List.append_assoc, List.append_assoc, List.append_cancel_left_eq] at whole
  obtain ⟨sameDirectories, sameLast⟩ := List.append_inj' whole rfl
  obtain rfl := List.map_injective_iff.mpr Path.nameComponent_injective sameDirectories
  obtain rfl := (List.cons.inj sameLast).1
  refine first.eq_of_stem second ?_
  rcases named with rfl | ⟨point, rfl⟩ <;> rcases named' with same | ⟨point', same⟩
  · exact Path.withSuffix_injective filled (Path.Component.name.inj same)
  · cases same
  · cases same
  · rw [point, point']

end FileTree.FoundAt

end ElmCodec
