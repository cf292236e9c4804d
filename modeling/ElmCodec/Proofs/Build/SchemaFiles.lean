/-
**Which files are taken for schemas.**

The extension of a name is what follows its last point. An extension with a point in it is therefore
that of no name, though many names may end in it, and nothing is found for it.

* `Path.Before` — the order of paths, component by component.
* `FileTree.sorted_files`, `FileTree.sorted_unreadable` — **what is found is in the order of its
  paths**.
* `FileTree.mem_found_iff` — what is found, for every extension.
* `FileTree.IsSchema` — **a schema below a directory**, said of its name as a whole.
* `FileTree.FindsSchemas` — a list of just the schemas below a directory, in order.
* `FileTree.WellFormed.exists_discover` — what is found when every directory can be listed.
* `discover_exact_iff` — **the schemas are found** exactly if the extension has no point, or a
  slash.
* `dotted_extension_finds_nothing` — what a point does.
-/

import Mathlib.Data.List.Lex
import ElmCodec.Proofs.Build.Outputs
import ElmCodec.Proofs.Build.Schemas

namespace ElmCodec

/-! ### The order of paths -/

namespace Path

/-- The kinds of components in their order. -/
def Component.rank : Component → Nat
  | top => 0
  | current => 1
  | parent => 2
  | name _ => 3

/-- The order of components: kinds in their order, and names by their characters. -/
def Component.Before : Component → Component → Prop
  | name first, name second => first < second
  | first, second => first.rank < second.rank

instance : DecidableRel Component.Before
  | .name first, .name second => inferInstanceAs (Decidable (first < second))
  | .name _, .top | .name _, .current | .name _, .parent => inferInstanceAs (Decidable (3 < _))
  | .top, second => inferInstanceAs (Decidable (0 < second.rank))
  | .current, second => inferInstanceAs (Decidable (1 < second.rank))
  | .parent, second => inferInstanceAs (Decidable (2 < second.rank))

/-- **The order of paths**, component by component. -/
def Before (first second : Path) : Prop :=
  List.Lex Component.Before first.components second.components

instance : DecidableRel Before := fun first second =>
  inferInstanceAs (Decidable (List.Lex Component.Before first.components second.components))

theorem lex_names {first second : List String} (less : first < second) :
    List.Lex Component.Before (first.map .name) (second.map .name) := by
  have lex : List.Lex (· < ·) first second := less
  induction lex with
  | nil => exact .nil
  | rel before => exact .rel before
  | cons _ ih => exact .cons (ih ‹_›)

/-- What is below a directory has the order of the names that lead there. -/
theorem before_foldl_join {root : Path} (inhabited : root.text.toList ≠ [])
    {first second : List String} (less : first < second)
    (proper : ∀ name ∈ first, isFileName name.toList = true ∧ '/' ∉ name.toList)
    (proper' : ∀ name ∈ second, isFileName name.toList = true ∧ '/' ∉ name.toList) :
    Before (first.foldl join root) (second.foldl join root) := by
  rw [Before, (components_foldl_join inhabited proper).2,
    (components_foldl_join inhabited proper').2]
  exact (lex_names less).append_left _ _

end Path

namespace FileTree

variable {tree : FileTree} {root : Path} {extension : String}

/-! ### The order of what is found -/

section Found

variable {found : Discovery}
variable (discovered : (perform (discover root extension) tree).1 = .ok found)
variable (wellFormed : tree.WellFormed)
include discovered wellFormed

omit discovered in
/-- Entries below a directory have the order of the names that lead there. -/
theorem before_of_ascending {base : Location} (rooted : tree.locate root = .ok base)
    {locations : List Location} (ascending : locations.Pairwise (· < ·))
    (each : ∀ names ∈ locations, ∃ entry, tree.entry? (base ++ names) = some entry) :
    (locations.map (·.foldl Path.join root)).Pairwise Path.Before := by
  have inhabited := (isOutside_eq_false_iff.mp (locate_eq_ok_iff.mp rooted).1).1
  have proper : ∀ location ∈ locations, ∀ name ∈ location,
      Path.isFileName name.toList = true ∧ '/' ∉ name.toList := fun location member =>
    have ⟨_, here⟩ := each location member
    wellFormed.proper_of_append here
  rw [List.pairwise_map]
  exact ascending.imp_of_mem fun first second less =>
    Path.before_foldl_join inhabited less (proper _ first) (proper _ second)

/-- **The files are found in the order of their paths.** -/
theorem sorted_files : found.files.Pairwise Path.Before := by
  obtain ⟨base, rooted, _⟩ := exists_base_of_discover discovered
  obtain ⟨locations, ascending, whole, listed⟩ := exists_locations_of_discover discovered
  rw [whole]
  refine before_of_ascending wellFormed rooted ascending fun names member => ?_
  obtain ⟨content, here⟩ := wellFormed.exists_entry_of_listed rooted (listed names member)
  exact ⟨_, here⟩

/-- **What cannot be read is found in the order of its paths.** -/
theorem sorted_unreadable : (found.unreadable.map (·.1)).Pairwise Path.Before := by
  obtain ⟨base, rooted, _⟩ := exists_base_of_discover discovered
  obtain ⟨refused, whole, mem_iff⟩ := exists_unreadable_of_discover discovered
  have paths : found.unreadable.map (·.1) = refused.keys.map (·.foldl Path.join root) := by
    rw [whole, List.map_map, OrderedMap.keys, List.map_map]
    rfl
  rw [paths]
  refine before_of_ascending wellFormed rooted refused.keys_ascending fun names member => ?_
  obtain ⟨⟨_, cause⟩, inside, rfl⟩ := List.mem_map.mp member
  exact ⟨_, ((mem_survey_unreadable_iff rooted).mp ((mem_iff _).mp inside)).1⟩

/-- No file that is found is among what cannot be read. -/
theorem not_mem_unreadable {file : Path} (member : file ∈ found.files) :
    file ∉ found.unreadable.map (·.1) := by
  intro listed
  obtain ⟨⟨_, failure⟩, inside, rfl⟩ := List.mem_map.mp listed
  obtain ⟨base, rooted, _⟩ := exists_base_of_discover discovered
  obtain ⟨directories, name, place⟩ := exists_foundAt discovered wellFormed rooted member
  obtain ⟨names, cause, whole, _, isDirectory, _⟩ :=
    (mem_unreadable_iff discovered rooted).mp inside
  obtain ⟨content, here⟩ := place.content
  have leads := wellFormed.locate_foldl_join rooted isDirectory
  rw [← whole] at leads
  have same := Except.ok.inj (place.names.located.symm.trans leads)
  rw [content?_eq_some_iff, same, isDirectory] at here
  cases here

/-- **Which files are found**: those that the walk comes to under a name with the extension. -/
theorem mem_found_iff {file : Path} : file ∈ found.files ↔
    ∃ base directories name, FoundAt tree root extension file base directories name := by
  constructor
  · intro member
    obtain ⟨base, rooted, _⟩ := exists_base_of_discover discovered
    exact ⟨base, exists_foundAt discovered wellFormed rooted member⟩
  · rintro ⟨base, directories, name, place⟩
    obtain ⟨_, rfl⟩ := eq_of_discover discovered
    have whole : file = (directories ++ [name]).foldl Path.join root := by
      rw [place.path, List.foldl_concat]
    refine List.mem_filter.mpr ⟨?_, beq_iff_eq.mpr ?_⟩
    · rw [whole]
      exact List.mem_map_of_mem (mem_sortLocations.mpr place.listed)
    · exact place.names.extension?_eq_some_iff.mpr place.extension

end Found

/-! ### Schemas -/

/-- **A schema below a directory**: a file at any depth whose name is something, a point and the
extension. -/
def IsSchema (tree : FileTree) (root : Path) (extension : String) (file : Path) : Prop :=
  ∃ base directories front, tree.locate root = .ok base ∧ front ≠ "" ∧
    file = (directories ++ [front ++ "." ++ extension]).foldl Path.join root ∧
    ∃ content,
      tree.content? (base ++ directories ++ [front ++ "." ++ extension]) = some content

/-- **The schemas below a directory are found**: they are listed and nothing else is, each of them
once, in the order of their paths. -/
structure FindsSchemas (tree : FileTree) (root : Path) (extension : String) (files : List Path) :
    Prop where
  sorted : files.Pairwise Path.Before
  nodup : files.Nodup
  mem_iff : ∀ file, file ∈ files ↔ tree.IsSchema root extension file

/-- Every directory can be listed. -/
def Listable (tree : FileTree) : Prop := ∀ location, (tree.refusalsAt location).listing = none

/-- A file that is found is a schema, and the extension has no point. -/
theorem FoundAt.isSchema {file : Path} {base : Location} {directories : List String} {name : String}
    (place : FoundAt tree root extension file base directories name) :
    '.' ∉ extension.toList ∧ tree.IsSchema root extension file := by
  have whole : name = Path.stem name ++ "." ++ extension := by
    rw [← String.toList_inj, place.toList_name]
    simp
  refine ⟨(Path.splitName_ends place.extension).2, base, directories, Path.stem name, place.rooted,
    fun none => place.stem_ne_nil (by rw [none]; rfl), ?_, ?_⟩
  · rw [← whole, List.foldl_concat, place.path]
  · rw [← whole]
    exact place.content

/-- A schema is found, if the extension has no point and the walk comes to it. -/
theorem IsSchema.exists_foundAt {file : Path} (schema : tree.IsSchema root extension file)
    (wellFormed : tree.WellFormed) (listable : tree.Listable) (plain : '.' ∉ extension.toList) :
    ∃ base directories name, FoundAt tree root extension file base directories name := by
  obtain ⟨base, directories, front, rooted, inhabited, whole, content, here⟩ := schema
  have there := content?_eq_some_iff.mp here
  have above := wellFormed.above there
  have cut : (front ++ "." ++ extension).toList = front.toList ++ '.' :: extension.toList := by
    simp
  refine ⟨base, directories, front ++ "." ++ extension, ?_, rooted,
    wellFormed.locate_foldl_join rooted above, above, ?_, ⟨content, here⟩, ?_, ?_⟩
  · rw [whole, List.foldl_concat]
  · rw [List.append_assoc] at there
    exact wellFormed.proper_of_append there
  · exact canReach_iff.mpr fun _ _ _ _ => listable _
  · rw [cut, Path.splitName_append (by simpa using inhabited) plain]

/-- Where every directory can be listed nothing is unreadable. -/
theorem Listable.unreadable_eq_nil (listable : tree.Listable) {found : Discovery}
    (discovered : (perform (discover root extension) tree).1 = .ok found) :
    found.unreadable = [] := by
  obtain ⟨base, rooted, _⟩ := exists_base_of_discover discovered
  rw [List.eq_nil_iff_forall_not_mem]
  intro entry member
  obtain ⟨names, cause, _, _, _, _, refused⟩ := (mem_unreadable_iff discovered rooted).mp member
  rw [listable] at refused
  cases refused

/-- **What is found** below a directory where every directory can be listed: the schemas, each once
and in the order of their paths, if the extension has no point, and nothing otherwise. -/
theorem WellFormed.exists_discover (wellFormed : tree.WellFormed) (listable : tree.Listable)
    (isDirectory : tree.isDirectory root = true) (extension : String) :
    ∃ files, perform (discover root extension) tree = (.ok ⟨files, []⟩, tree) ∧
      files.Pairwise Path.Before ∧ files.Nodup ∧
      ∀ file, file ∈ files ↔ '.' ∉ extension.toList ∧ tree.IsSchema root extension file := by
  obtain ⟨⟨files, unreadable⟩, whole⟩ :
      ∃ found, perform (discover root extension) tree = (.ok found, tree) := by
    rw [perform_discover, isDirectory]
    exact ⟨_, rfl⟩
  have discovered := congrArg Prod.fst whole
  obtain rfl : unreadable = [] := listable.unreadable_eq_nil discovered
  refine ⟨files, whole, sorted_files discovered wellFormed, nodup_of_discover discovered wellFormed,
    fun file => (mem_found_iff discovered wellFormed).trans ⟨?_, fun ⟨plain, schema⟩ => ?_⟩⟩
  · rintro ⟨_, _, _, place⟩
    exact place.isSchema
  · exact schema.exists_foundAt wellFormed listable plain

/-- No file has a name with a slash. -/
theorem WellFormed.not_isSchema (wellFormed : tree.WellFormed) (slash : '/' ∈ extension.toList)
    (file : Path) : ¬ tree.IsSchema root extension file := by
  rintro ⟨base, directories, front, _, _, _, content, here⟩
  exact wellFormed.plain (content?_eq_some_iff.mp here) (by simp [slash])

/-- There are trees with a schema, for every extension without a slash. -/
theorem exists_isSchema (plain : '/' ∉ extension.toList) :
    ∃ tree : FileTree, tree.WellFormed ∧ tree.Listable ∧ tree.isDirectory ⟨"."⟩ = true ∧
      ∃ file, tree.IsSchema ⟨"."⟩ extension file := by
  let tree : FileTree := ({} : FileTree).insert ["A" ++ "." ++ extension] (.file "")
  have empty : WellFormed {} := .of_keys (by decide)
  have working : entry? {} [] = some .directory := rfl
  have free : entry? {} ([] ++ ["A" ++ "." ++ extension]) ≠ some .directory := by
    rw [entry?_of_ne_nil (by simp), OrderedMap.get?_empty]
    decide
  have proper : Path.isFileName ("A" ++ "." ++ extension).toList = true := by
    simp [Path.isFileName]
  have wellFormed : tree.WellFormed :=
    empty.insert_file working proper (by simpa using plain) free ""
  have here : tree.content? ["A" ++ "." ++ extension] = some (.text "") := by
    rw [content?_eq_some_iff, entry?_insert (by simp), if_pos rfl]
  exact ⟨tree, wellFormed, fun _ => rfl, rfl, _, [], [], "A", rfl, by decide, rfl, _, here⟩

end FileTree

/-- **Schemas are found** in every tree whose directories can be listed, and below every directory:
all of them and nothing else, each once and in the order of their paths. This is so exactly when the
extension has no point, or when it has a slash, so that there are no schemas. -/
theorem discover_exact_iff {extension : String} :
    (∀ {tree : FileTree} {root : Path}, tree.WellFormed → tree.Listable →
      tree.isDirectory root = true →
      ∃ files, FileTree.perform (discover root extension) tree = (.ok ⟨files, []⟩, tree) ∧
        tree.FindsSchemas root extension files) ↔
      '.' ∉ extension.toList ∨ '/' ∈ extension.toList := by
  constructor
  · intro finds
    by_contra pointed
    rw [not_or, not_not] at pointed
    obtain ⟨tree, wellFormed, listable, isDirectory, file, schema⟩ :=
      FileTree.exists_isSchema pointed.2
    obtain ⟨files, found, exact⟩ := finds wellFormed listable isDirectory
    obtain ⟨others, found', _, _, mem_iff⟩ :=
      wellFormed.exists_discover listable isDirectory extension
    obtain rfl : files = others := congrArg Discovery.files
      (Except.ok.inj (congrArg Prod.fst (found.symm.trans found')))
    exact ((mem_iff file).mp ((exact.mem_iff file).mpr schema)).1 pointed.1
  · intro cases tree root wellFormed listable isDirectory
    obtain ⟨files, found, sorted, nodup, mem_iff⟩ :=
      wellFormed.exists_discover listable isDirectory extension
    refine ⟨files, found, sorted, nodup, fun file => (mem_iff file).trans ?_⟩
    rcases cases with plain | slash
    · exact and_iff_right plain
    · exact iff_of_false (fun both => wellFormed.not_isSchema slash file both.2)
        (wellFormed.not_isSchema slash file)

theorem drafts_listable : drafts.Listable := fun _ => rfl

/-- With the standard extension both drafts are found, and nothing else. -/
theorem drafts_found :
    drafts.WellFormed ∧ drafts.Listable ∧ drafts.isDirectory ⟨"."⟩ = true ∧
      drafts.FindsSchemas ⟨"."⟩ "yaml" [⟨"./A.Gen.yaml"⟩, ⟨"./A.yaml"⟩] := by
  have isDirectory : drafts.isDirectory ⟨"."⟩ = true := by decide +kernel
  have listed : (FileTree.perform (discover ⟨"."⟩ "yaml") drafts).1 =
      .ok ⟨[⟨"./A.Gen.yaml"⟩, ⟨"./A.yaml"⟩], []⟩ := by decide +kernel
  have plain : '.' ∉ "yaml".toList := by decide
  obtain ⟨files, found, finds⟩ :=
    discover_exact_iff.mpr (.inl plain) drafts_wellFormed drafts_listable isDirectory
  rw [found] at listed
  obtain rfl := congrArg Discovery.files (Except.ok.inj listed)
  exact ⟨drafts_wellFormed, drafts_listable, isDirectory, finds⟩

/-- An extension with a point passes the check of manifests, and nothing is found for it. -/
theorem dotted_extension_finds_nothing :
    ∃ manifest : Manifest, manifest.validate = .ok () ∧ drafts.WellFormed ∧ drafts.Listable ∧
      drafts.isDirectory ⟨"."⟩ = true ∧
      drafts.IsSchema ⟨"."⟩ manifest.schemaExtension ⟨"./A.Gen.yaml"⟩ ∧
      FileTree.perform (discover ⟨"."⟩ manifest.schemaExtension) drafts =
        (.ok ⟨[], []⟩, drafts) := by
  refine ⟨{ schemaExtension := "Gen.yaml" }, by decide +kernel, drafts_wellFormed, drafts_listable,
    by decide +kernel, ?_, by decide +kernel⟩
  exact ⟨[], [], "A", by decide +kernel, by decide, by decide +kernel, .text "name: Draft\n",
    by decide +kernel⟩

end ElmCodec
