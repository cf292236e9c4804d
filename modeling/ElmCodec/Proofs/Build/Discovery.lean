/-
**What is found below a directory.**

* `FileTree.WellFormed` — every entry of a tree has a proper name and stands in a directory;
  `FileTree.WellFormed.insert_file` — so it is with one more file.
* `FileTree.below?_eq_some_iff` — what is left of a location behind a directory above it.
* `FileTree.WellFormed.locate_foldl_join` — names in a directory lead where they say.
* `FileTree.canReach_iff` — where a walk comes to: every directory on the way can be listed.
* `FileTree.mem_survey_files_iff`, `FileTree.mem_survey_unreadable_iff` — what a walk comes across.
* `FileTree.perform_discover` — what is found.
* `FileTree.exists_locations_of_discover` — files are found in the order of the names that lead to
  them, each once.
* `FileTree.mem_unreadable_iff` — **the directories that cannot be listed** are found, with the
  reasons.
* `FileTree.nodup_of_discover` — no path is found twice.
* `FileTree.FoundAt` — **where a file is found**; `FileTree.exists_foundAt` — every one is found
  somewhere, and `FileTree.FoundAt.unique` — no two in one place.
* `FileTree.exists_content_of_discover` — **every file that is found is there** at its path.
-/

import ElmCodec.Build.Tree
import ElmCodec.Proofs.FileTree.Writing

namespace ElmCodec

namespace FileTree

/-- **A tree as it is on a disk**: every entry has a proper name and stands in a directory. -/
structure WellFormed (tree : FileTree) : Prop where
  named : tree.entries.get? [] = none
  above : ∀ {location name entry}, tree.entry? (location ++ [name]) = some entry →
    tree.entry? location = some .directory
  proper : ∀ {location name entry}, tree.entry? (location ++ [name]) = some entry →
    Path.isFileName name.toList = true
  plain : ∀ {location name entry}, tree.entry? (location ++ [name]) = some entry →
    '/' ∉ name.toList

variable {tree : FileTree}

/-- Whether a tree is as on a disk can be seen from its entries. -/
theorem WellFormed.of_keys (each : ∀ location ∈ tree.entries.keys, location ≠ [] ∧
    tree.entry? location.dropLast = some .directory ∧ ∀ name ∈ location.getLast?,
      Path.isFileName name.toList = true ∧ '/' ∉ name.toList) : tree.WellFormed := by
  have named : ∀ {location name entry}, tree.entry? (location ++ [name]) = some entry →
      tree.entry? location = some .directory ∧ Path.isFileName name.toList = true ∧
        '/' ∉ name.toList := by
    intro location name entry found
    rw [entry?_of_ne_nil (by simp)] at found
    obtain ⟨_, above, last⟩ := each _ (OrderedMap.mem_keys_iff.mpr ⟨entry, found⟩)
    rw [List.dropLast_concat] at above
    exact ⟨above, last name (by simp)⟩
  refine ⟨?_, fun found => (named found).1, fun found => (named found).2.1,
    fun found => (named found).2.2⟩
  rw [Option.eq_none_iff_forall_ne_some]
  intro entry found
  exact (each [] (OrderedMap.mem_keys_iff.mpr ⟨entry, found⟩)).1 rfl

/-- Where a path leads there is a directory, or the place of a proper name in one. -/
theorem WellFormed.exists_name_of_locate (wellFormed : tree.WellFormed) {path : Path}
    {goal : Location} (located : tree.locate path = .ok goal)
    (free : tree.entry? goal ≠ some .directory) :
    ∃ directory name, goal = directory ++ [name] ∧ tree.entry? directory = some .directory ∧
      Path.isFileName name.toList = true ∧ '/' ∉ name.toList := by
  obtain ⟨parts, last, whole, plain⟩ : ∃ parts last, partsOf path = parts ++ [last] ∧
      '/' ∉ last.toList := by
    rcases path.parts_cases with ⟨whole, plain⟩ | ⟨before, last, _, plain, whole⟩
    · exact ⟨[], path.text, by simp [partsOf, whole], plain⟩
    · exact ⟨_, .ofList last, by rw [partsOf, whole, List.map_append, List.map_singleton],
        by rwa [String.toList_ofList]⟩
  obtain ⟨_, reached⟩ := locate_eq_ok_iff.mp located
  rw [whole, walk_concat_eq_ok_iff] at reached
  obtain ⟨above, _, directory, stepped⟩ := reached
  by_cases proper : Path.isFileName last.toList = true
  · rw [step_of_isFileName proper, Option.some.injEq] at stepped
    exact ⟨above, last, stepped.symm, directory, proper, plain⟩
  · -- The last part leads nowhere or upwards, and so to a directory.
    rw [isFileName_iff, not_and_or, Bool.not_eq_false, not_not] at proper
    unfold step at stepped
    split at stepped
    · exact absurd (Option.some.inj stepped ▸ directory) free
    · next counts =>
      rw [if_pos (by simpa using proper.resolve_left counts)] at stepped
      rcases List.eq_nil_or_concat' above with rfl | ⟨before, name, rfl⟩
      · cases stepped
      · rw [if_neg (by simp), List.dropLast_concat, Option.some.injEq] at stepped
        exact absurd (stepped ▸ wellFormed.above directory) free

/-- A file can be put in a directory under a proper name. -/
theorem WellFormed.insert_file (wellFormed : tree.WellFormed) {directory : Location}
    {name : String} (isDirectory : tree.entry? directory = some .directory)
    (proper : Path.isFileName name.toList = true) (plain : '/' ∉ name.toList)
    (free : tree.entry? (directory ++ [name]) ≠ some .directory) (text : String) :
    (tree.insert (directory ++ [name]) (.file text)).WellFormed := by
  have keeps := KeepsDirectories.insert_file (by simp) free (.text text)
  have cases : ∀ {location last entry},
      entry? (tree.insert (directory ++ [name]) (.file text)) (location ++ [last]) = some entry →
        location = directory ∧ last = name ∨ tree.entry? (location ++ [last]) = some entry := by
    intro location last entry found
    rw [entry?_insert (by simp)] at found
    split at found
    · next here =>
      obtain ⟨same, sameName⟩ := List.append_inj' here rfl
      exact .inl ⟨same, (List.cons.inj sameName).1⟩
    · exact .inr found
  constructor
  · rw [get?_insert, if_neg (by simp), wellFormed.named]
  · intro location last entry found
    rcases cases found with ⟨rfl, rfl⟩ | before
    · exact keeps _ isDirectory
    · exact keeps _ (wellFormed.above before)
  · intro location last entry found
    rcases cases found with ⟨rfl, rfl⟩ | before
    · exact proper
    · exact wellFormed.proper before
  · intro location last entry found
    rcases cases found with ⟨rfl, rfl⟩ | before
    · exact plain
    · exact wellFormed.plain before

/-! ### Names below a directory -/

theorem below?_eq_some_iff {directory location names : Location} :
    below? directory location = some names ↔ location = directory ++ names := by
  induction directory generalizing location with
  | nil => simp [below?]
  | cons name rest ih =>
    cases location with
    | nil => simp [below?]
    | cons first others =>
      rw [below?, List.cons_append, List.cons.injEq]
      by_cases same : name = first
      · rw [if_pos same, ih, and_iff_right same.symm]
      · rw [if_neg same]
        exact ⟨nofun, fun both => absurd both.1.symm same⟩

/-- Names in a directory lead where they say. -/
theorem WellFormed.locate_foldl_join (wellFormed : tree.WellFormed) {root : Path}
    {directory : Location} (located : tree.locate root = .ok directory) {names : List String}
    {entry : Entry} (found : tree.entry? (directory ++ names) = some entry) :
    tree.locate (names.foldl Path.join root) = .ok (directory ++ names) := by
  induction names using List.reverseRecOn generalizing entry with
  | nil => rwa [List.append_nil]
  | append_singleton names name ih =>
    rw [← List.append_assoc] at found ⊢
    have above := wellFormed.above found
    have located := ih above
    rw [List.foldl_append]
    exact (Names.join (locate_eq_ok_iff.mp located).1 located above (wellFormed.proper found)
      (wellFormed.plain found)).located

theorem isDirectory_iff {path : Path} : tree.isDirectory path = true ↔
    ∃ location, tree.locate path = .ok location ∧ tree.entry? location = some .directory := by
  rw [← look_eq_ok_iff]
  unfold isDirectory
  split <;> simp_all

theorem mem_files_iff {location : Location} :
    location ∈ tree.files ↔ ∃ content, tree.entries.get? location = some (.file content) := by
  unfold files
  rw [List.mem_filterMap]
  constructor
  · rintro ⟨⟨other, entry⟩, member, same⟩
    cases entry with
    | directory => cases same
    | file content =>
      obtain rfl := Option.some.inj same
      exact ⟨content, OrderedMap.mem_entries_iff.mp member⟩
  · rintro ⟨content, found⟩
    exact ⟨(location, .file content), OrderedMap.mem_entries_iff.mpr found, rfl⟩

theorem mem_directories_iff {location : Location} :
    location ∈ tree.directories ↔ tree.entry? location = some .directory := by
  unfold directories
  rw [List.mem_cons, List.mem_filterMap]
  constructor
  · rintro (rfl | ⟨⟨other, entry⟩, member, same⟩)
    · rfl
    · cases entry with
      | file content => cases same
      | directory =>
        obtain rfl := Option.some.inj same
        cases other with
        | nil => rfl
        | cons name rest => exact OrderedMap.mem_entries_iff.mp member
  · intro found
    cases location with
    | nil => exact .inl rfl
    | cons name rest =>
      exact .inr ⟨(_, .directory), OrderedMap.mem_entries_iff.mpr found, rfl⟩

/-! ### Walks through a directory -/

/-- **A walk comes to names** when every directory on the way can be listed. -/
theorem canReach_iff {here names : Location} : tree.canReach here names = true ↔
    ∀ front name rest, names = front ++ name :: rest →
      (tree.refusalsAt (here ++ front)).listing = none := by
  induction names generalizing here with
  | nil => exact ⟨fun _ front name rest same => by simp at same, fun _ => rfl⟩
  | cons first others ih =>
    rw [canReach, Bool.and_eq_true, Option.isNone_iff_eq_none, ih]
    constructor
    · rintro ⟨listed, later⟩ front name rest same
      cases front with
      | nil => rwa [List.append_nil]
      | cons other front =>
        obtain ⟨rfl, behind⟩ := List.cons.inj same
        rw [List.append_cons]
        exact later front name rest behind
    · intro all
      refine ⟨by simpa using all [] first others rfl, fun front name rest same => ?_⟩
      rw [← List.append_cons]
      exact all (first :: front) name rest (by rw [same]; rfl)

section Survey

variable {root : Path} {directory : Location} (located : tree.locate root = .ok directory)
include located

/-- **The files that a walk comes across.** -/
theorem mem_survey_files_iff {names : List String} : names ∈ (tree.survey root).files ↔
    directory ++ names ∈ tree.files ∧ tree.canReach directory names = true := by
  unfold survey
  rw [located, List.mem_filter, List.mem_filterMap]
  refine and_congr_left fun _ => ⟨?_, fun listed => ⟨_, listed, below?_eq_some_iff.mpr rfl⟩⟩
  rintro ⟨location, listed, below⟩
  obtain rfl := below?_eq_some_iff.mp below
  exact listed

/-- **The directories that a walk cannot list**, and why. -/
theorem mem_survey_unreadable_iff {names : List String} {error : DiskError} :
    (names, error) ∈ (tree.survey root).unreadable ↔
      tree.entry? (directory ++ names) = some .directory ∧
        tree.canReach directory names = true ∧
        (tree.refusalsAt (directory ++ names)).listing = some error := by
  unfold survey
  rw [located, List.mem_filterMap, ← mem_directories_iff]
  constructor
  · rintro ⟨others, member, same⟩
    rw [List.mem_filter, List.mem_filterMap] at member
    obtain ⟨⟨location, listed, below⟩, reached⟩ := member
    obtain rfl := below?_eq_some_iff.mp below
    obtain ⟨cause, refused, same⟩ := Option.map_eq_some_iff.mp same
    obtain ⟨rfl, rfl⟩ := Prod.mk.inj same
    exact ⟨listed, reached, refused⟩
  · rintro ⟨listed, reached, refused⟩
    refine ⟨names, List.mem_filter.mpr ⟨List.mem_filterMap.mpr ?_, reached⟩, by rw [refused]; rfl⟩
    exact ⟨_, listed, below?_eq_some_iff.mpr rfl⟩

/-- Putting the directories that cannot be listed in order adds none and drops none. -/
theorem mem_ofList_unreadable {entry : Location × DiskError} :
    entry ∈ (OrderedMap.ofList (tree.survey root).unreadable).entries ↔
      entry ∈ (tree.survey root).unreadable := by
  refine OrderedMap.mem_ofList_iff ?_
  rintro ⟨names, cause⟩ member ⟨others, cause'⟩ member' (rfl : names = others)
  rw [mem_survey_unreadable_iff located] at member member'
  rw [Option.some.inj (member.2.2.symm.trans member'.2.2)]

end Survey

/-- Putting locations in order adds none and drops none. -/
theorem mem_sortLocations {location : Location} {locations : List Location} :
    location ∈ sortLocations locations ↔ location ∈ locations := by
  unfold sortLocations
  rw [OrderedMap.mem_keys_ofList]
  simp

/-! ### What is found -/

/-- What is found below a root. -/
theorem perform_discover (root : Path) (extension : String) (tree : FileTree) :
    perform (discover root extension) tree =
      (if tree.isDirectory root then .ok (.ofSurvey root extension (tree.survey root))
      else .error (.rootNotADirectory root), tree) := by
  unfold discover
  rw [perform_bind, perform_liftM, run_isDirectory]
  cases tree.isDirectory root <;> rfl

section Found

variable {root : Path} {extension : String} {found : Discovery}
variable (discovered : (perform (discover root extension) tree).1 = .ok found)
include discovered

/-- Something is found below a directory that is there. -/
theorem eq_of_discover : tree.isDirectory root = true ∧
    found = .ofSurvey root extension (tree.survey root) := by
  rw [perform_discover] at discovered
  split at discovered
  · next isDirectory => exact ⟨isDirectory, (Except.ok.inj discovered).symm⟩
  · cases discovered

theorem exists_base_of_discover :
    ∃ base, tree.locate root = .ok base ∧ tree.entry? base = some .directory :=
  isDirectory_iff.mp (eq_of_discover discovered).1

theorem extension_of_discover {file : Path} (member : file ∈ found.files) :
    file.extension? = some extension := by
  obtain ⟨_, rfl⟩ := eq_of_discover discovered
  simpa using (List.mem_filter.mp member).2

/-- **Files are found in the order of the names** that lead to them, each once. -/
theorem exists_locations_of_discover :
    ∃ locations : List Location, locations.Pairwise (· < ·) ∧
      found.files = locations.map (·.foldl Path.join root) ∧
      ∀ location ∈ locations, location ∈ (tree.survey root).files := by
  obtain ⟨_, rfl⟩ := eq_of_discover discovered
  refine ⟨(sortLocations (tree.survey root).files).filter
    ((·.extension? == some extension) ∘ (·.foldl Path.join root)), ?_, ?_, ?_⟩
  · exact (OrderedMap.keys_ascending _).filter _
  · exact List.filter_map
  · exact fun location member => mem_sortLocations.mp (List.mem_filter.mp member).1

/-- **The directories that cannot be listed** are found with the reasons, each once, in the order of
the names that lead to them. -/
theorem exists_unreadable_of_discover :
    ∃ refused : OrderedMap Location DiskError,
      (found.unreadable = refused.entries.map fun (names, cause) =>
        (names.foldl Path.join root, .unreadableEntry (names.foldl Path.join root) cause)) ∧
      ∀ entry, entry ∈ refused.entries ↔ entry ∈ (tree.survey root).unreadable := by
  obtain ⟨base, rooted, _⟩ := exists_base_of_discover discovered
  obtain ⟨_, rfl⟩ := eq_of_discover discovered
  exact ⟨_, rfl, fun entry => mem_ofList_unreadable rooted⟩

/-- **Which directories cannot be listed.** -/
theorem mem_unreadable_iff {base : Location} (rooted : tree.locate root = .ok base) {path : Path}
    {failure : Failure} : (path, failure) ∈ found.unreadable ↔
      ∃ names cause, path = names.foldl Path.join root ∧ failure = .unreadableEntry path cause ∧
        tree.entry? (base ++ names) = some .directory ∧ tree.canReach base names = true ∧
        (tree.refusalsAt (base ++ names)).listing = some cause := by
  obtain ⟨refused, whole, mem_iff⟩ := exists_unreadable_of_discover discovered
  rw [whole, List.mem_map]
  constructor
  · rintro ⟨⟨names, cause⟩, member, same⟩
    obtain ⟨rfl, rfl⟩ := Prod.mk.inj same
    exact ⟨names, cause, rfl, rfl, (mem_survey_unreadable_iff rooted).mp ((mem_iff _).mp member)⟩
  · rintro ⟨names, cause, rfl, rfl, here⟩
    exact ⟨(names, cause), (mem_iff _).mpr ((mem_survey_unreadable_iff rooted).mpr here), rfl⟩

end Found

/-! ### Where files are found -/

/-- Every name on the way to an entry is one. -/
theorem WellFormed.proper_of_append (wellFormed : tree.WellFormed) {directory names : Location}
    {entry : Entry} (found : tree.entry? (directory ++ names) = some entry) :
    ∀ name ∈ names, Path.isFileName name.toList = true ∧ '/' ∉ name.toList := by
  induction names using List.reverseRecOn generalizing entry with
  | nil => exact nofun
  | append_singleton names last ih =>
    rw [← List.append_assoc] at found
    intro name member
    rcases List.mem_append.mp member with earlier | here
    · exact ih (wellFormed.above found) name earlier
    · obtain rfl := List.mem_singleton.mp here
      exact ⟨wellFormed.proper found, wellFormed.plain found⟩

/-- **A file is found** in a directory below the root, under a name with the extension. -/
structure FoundAt (tree : FileTree) (root : Path) (extension : String) (file : Path)
    (base : Location) (directories : List String) (name : String) : Prop where
  path : file = (directories.foldl Path.join root).join name
  rooted : tree.locate root = .ok base
  directory : tree.locate (directories.foldl Path.join root) = .ok (base ++ directories)
  above : tree.entry? (base ++ directories) = some .directory
  proper : ∀ part ∈ directories ++ [name], Path.isFileName part.toList = true ∧ '/' ∉ part.toList
  content : ∃ content, tree.content? (base ++ directories ++ [name]) = some content
  reached : tree.canReach base (directories ++ [name]) = true
  extension : (Path.splitName name.toList).2 = some extension.toList

namespace FoundAt

variable {root file other : Path} {extension : String} {base : Location}
variable {directories otherDirectories : List String} {name otherName : String}

theorem names (place : FoundAt tree root extension file base directories name) :
    Names tree file (base ++ directories) name := by
  obtain ⟨proper, plain⟩ := place.proper name (by simp)
  rw [place.path]
  exact .join (locate_eq_ok_iff.mp place.directory).1 place.directory place.above proper plain

/-- A file that is found is listed below the root. -/
theorem listed (place : FoundAt tree root extension file base directories name) :
    directories ++ [name] ∈ (tree.survey root).files := by
  obtain ⟨content, found⟩ := place.content
  rw [content?_eq_some_iff, entry?_of_ne_nil (by simp), List.append_assoc] at found
  exact (mem_survey_files_iff place.rooted).mpr
    ⟨mem_files_iff.mpr ⟨content, found⟩, place.reached⟩

/-- The root is not the empty path. -/
theorem inhabited (place : FoundAt tree root extension file base directories name) :
    root.text.toList ≠ [] :=
  (isOutside_eq_false_iff.mp (locate_eq_ok_iff.mp place.rooted).1).1

/-- The names that lead to a file decide where it is. -/
theorem unique (first : FoundAt tree root extension file base directories name)
    (second : FoundAt tree root extension other base otherDirectories otherName)
    (same : base ++ directories ++ [name] = base ++ otherDirectories ++ [otherName]) :
    file = other := by
  rw [List.append_assoc, List.append_assoc, List.append_cancel_left_eq] at same
  obtain ⟨sameDirectories, sameName⟩ := List.append_inj' same rfl
  rw [first.path, second.path, sameDirectories, (List.cons.inj sameName).1]

end FoundAt

/-- What is listed below a root is a file there. -/
theorem WellFormed.exists_entry_of_listed (wellFormed : tree.WellFormed) {root : Path}
    {base names : Location} (rooted : tree.locate root = .ok base)
    (listed : names ∈ (tree.survey root).files) :
    ∃ content, tree.entry? (base ++ names) = some (.file content) := by
  obtain ⟨listed, _⟩ := (mem_survey_files_iff rooted).mp listed
  obtain ⟨content, listed⟩ := mem_files_iff.mp listed
  refine ⟨content, ?_⟩
  rw [entry?_of_ne_nil, listed]
  intro none
  rw [none, wellFormed.named] at listed
  cases listed

/-- What is listed below a directory, under a name with the extension, is found there. -/
theorem WellFormed.exists_foundAt_of_listed (wellFormed : tree.WellFormed) {root : Path}
    {base names : Location} (rooted : tree.locate root = .ok base)
    (isDirectory : tree.entry? base = some .directory)
    (listed : names ∈ (tree.survey root).files)
    {extension : String} (named : (names.foldl Path.join root).extension? = some extension) :
    ∃ directories name, names = directories ++ [name] ∧
      FoundAt tree root extension (names.foldl Path.join root) base directories name := by
  obtain ⟨_, reached⟩ := (mem_survey_files_iff rooted).mp listed
  obtain ⟨content, listed⟩ := wellFormed.exists_entry_of_listed rooted listed
  rcases List.eq_nil_or_concat' names with rfl | ⟨directories, name, rfl⟩
  · rw [List.append_nil, isDirectory] at listed
    cases listed
  · have proper := wellFormed.proper_of_append listed
    rw [← List.append_assoc] at listed
    have above := wellFormed.above listed
    have directory := wellFormed.locate_foldl_join rooted above
    have path : (directories ++ [name]).foldl Path.join root =
        (directories.foldl Path.join root).join name := List.foldl_concat ..
    have last := proper name (by simp)
    have leads : Names tree _ _ name :=
      .join (locate_eq_ok_iff.mp directory).1 directory above last.1 last.2
    rw [path] at named
    exact ⟨directories, name, rfl, path, rooted, directory, above, proper,
      ⟨content, content?_eq_some_iff.mpr listed⟩, reached, leads.extension?_eq_some_iff.mp named⟩

section Found

variable {root : Path} {extension : String} {found : Discovery}
variable (discovered : (perform (discover root extension) tree).1 = .ok found)
variable (wellFormed : tree.WellFormed)
include discovered wellFormed

/-- **Every file is found once.** -/
theorem nodup_of_discover : found.files.Nodup := by
  obtain ⟨base, rooted, _⟩ := exists_base_of_discover discovered
  obtain ⟨locations, ascending, whole, listed⟩ := exists_locations_of_discover discovered
  rw [whole]
  have distinct : locations.Nodup := by
    refine List.Pairwise.imp ?_ ascending
    rintro first _ below rfl
    exact not_lt_self first below
  refine List.Nodup.map_on ?_ distinct
  intro first member second member' same
  obtain ⟨_, here⟩ := wellFormed.exists_entry_of_listed rooted (listed first member)
  obtain ⟨_, there⟩ := wellFormed.exists_entry_of_listed rooted (listed second member')
  have located := wellFormed.locate_foldl_join rooted here
  rw [same, wellFormed.locate_foldl_join rooted there] at located
  exact List.append_cancel_left (Except.ok.inj located).symm

/-- **Every file is found somewhere.** -/
theorem exists_foundAt {base : Location} (rooted : tree.locate root = .ok base) {file : Path}
    (member : file ∈ found.files) :
    ∃ directories name, FoundAt tree root extension file base directories name := by
  have named := extension_of_discover discovered member
  obtain ⟨locations, _, whole, below⟩ := exists_locations_of_discover discovered
  rw [whole] at member
  obtain ⟨names, inside, rfl⟩ := List.mem_map.mp member
  obtain ⟨other, rooted', isDirectory⟩ := exists_base_of_discover discovered
  obtain rfl := Except.ok.inj (rooted.symm.trans rooted')
  obtain ⟨directories, name, _, place⟩ :=
    wellFormed.exists_foundAt_of_listed rooted isDirectory (below names inside) named
  exact ⟨directories, name, place⟩

/-- **Every file that is found is there** at its path. -/
theorem exists_content_of_discover {file : Path} (member : file ∈ found.files) :
    ∃ content, tree.contentOf file = .ok content := by
  obtain ⟨base, rooted, _⟩ := exists_base_of_discover discovered
  obtain ⟨directories, name, place⟩ := exists_foundAt discovered wellFormed rooted member
  obtain ⟨content, here⟩ := place.content
  exact ⟨content, contentOf_eq_ok_iff.mpr ⟨_, place.names.located, here⟩⟩

end Found

end FileTree

end ElmCodec
