/-
**Files in a directory that is there.**

The path of something in a directory leads back to the directory, so that a file can be put there
and no directory has to be made on the way.

* `FileTree.locate_of_idle` — what does not count at the end of a path leads nowhere.
* `FileTree.locate_directory_join` — the directory of something in a directory.
* `FileTree.destination_join` — where a file is put.
* `FileTree.makeDirectories_eq` — no directory is made where one is.
-/

import ElmCodec.Proofs.FileTree.Writing
import ElmCodec.Proofs.Path.Names

namespace ElmCodec.FileTree

variable {tree : FileTree} {path : Path} {directory : Location}

/-! ### Ways to a directory -/

/-- Parts that do not count lead nowhere. -/
theorem walk_of_idle {here goal : Location} {parts idle : List String}
    (idleParts : ∀ part ∈ idle, isIdle part = true)
    (walked : tree.walk here (parts ++ idle) = .ok goal) : tree.walk here parts = .ok goal := by
  induction idle using List.reverseRecOn generalizing goal with
  | nil => rwa [List.append_nil] at walked
  | append_singleton others part ih =>
    rw [← List.append_assoc, walk_concat_eq_ok_iff] at walked
    obtain ⟨above, reached, _, stepped⟩ := walked
    rw [step, if_pos (idleParts part (by simp))] at stepped
    obtain rfl := Option.some.inj stepped
    exact ih (fun other member => idleParts other (List.mem_append_left _ member)) reached

/-- **What does not count at the end of a path** leads nowhere. -/
theorem locate_of_idle {above : Path} {idle : List Char} (all : Path.Idle idle)
    (whole : above.text.toList = path.text.toList ++ idle) (inhabited : path.text.toList ≠ [])
    (located : tree.locate above = .ok directory) : tree.locate path = .ok directory := by
  rw [locate_eq_ok_iff, isOutside_eq_false_iff] at located ⊢
  obtain ⟨⟨_, relative⟩, walked⟩ := located
  rw [whole, List.head?_append_of_ne_nil _ inhabited] at relative
  refine ⟨⟨inhabited, relative⟩, ?_⟩
  obtain ⟨parts, idleParts, cut⟩ := all.splitOn_append path.text.toList
  have parts_eq : partsOf above = partsOf path ++ parts.map String.ofList := by
    rw [partsOf, partsOf, Path.parts, Path.parts, whole, cut, List.map_append]
  rw [parts_eq] at walked
  refine walk_of_idle (fun part member => ?_) walked
  obtain ⟨letters, inside, rfl⟩ := List.mem_map.mp member
  rcases idleParts letters inside with rfl | rfl <;> decide

section Directory

variable (located : tree.locate path = .ok directory)
variable (isDirectory : tree.entry? directory = some .directory)
include located isDirectory

/-- A slash at the end of the path of a directory leads nowhere. -/
theorem locate_slashed : tree.locate path.slashed = .ok directory := by
  unfold Path.slashed
  split
  · exact located
  · rw [locate_eq_ok_iff, isOutside_eq_false_iff] at located ⊢
    obtain ⟨⟨inhabited, relative⟩, walked⟩ := located
    refine ⟨⟨by simp, ?_⟩, ?_⟩
    · rwa [String.toList_append, List.head?_append_of_ne_nil _ inhabited]
    · have parts_eq : partsOf ⟨path.text ++ "/"⟩ = partsOf path ++ [""] := by
        have cut := List.splitOn_append_cons_self (a := '/') path.text.toList []
        rw [List.splitOn_nil] at cut
        have whole : (path.text ++ "/").toList = path.text.toList ++ ['/'] := by simp
        rw [partsOf, partsOf, Path.parts, Path.parts, whole, cut, List.map_append]
        rfl
      rw [parts_eq]
      exact walk_concat_eq_ok_iff.mpr ⟨directory, walked, isDirectory, rfl⟩

/-- **The directory of something in a directory** is that directory. -/
theorem locate_directory_join {name : String} (proper : Path.isFileName name.toList = true)
    (plain : '/' ∉ name.toList) : tree.locate (path.join name).directory = .ok directory := by
  have slashed := locate_slashed located isDirectory
  obtain ⟨inhabited, _⟩ := isOutside_eq_false_iff.mp (locate_eq_ok_iff.mp located).1
  obtain ⟨inhabited', relative⟩ := isOutside_eq_false_iff.mp (locate_eq_ok_iff.mp slashed).1
  obtain ⟨idle, all, whole, filled⟩ :=
    (Path.ends_join inhabited plain proper).exists_idle inhabited' relative
  exact locate_of_idle all whole filled slashed

end Directory

/-! ### Orders in a directory -/

/-- Directories that are there need not be made. -/
theorem makeAlong_of_walk {here : Location} {parts : List String}
    (walked : tree.walk here parts = .ok directory)
    (isDirectory : tree.entry? directory = some .directory) :
    makeAlong here parts tree = (.ok (), tree) := by
  induction parts generalizing here with
  | nil => rfl
  | cons part rest ih =>
    rw [walk] at walked
    split at walked
    · cases walked
    · cases walked
    · cases walked
    · next next _ stepped =>
      have there : tree.entry? next = some .directory := by
        cases rest with
        | nil =>
          obtain rfl := Except.ok.inj walked
          exact isDirectory
        | cons other more =>
          rw [walk] at walked
          split at walked <;> simp_all
      rw [makeAlong, stepped]
      simp only [there]
      exact ih walked

section Directory

variable (located : tree.locate path = .ok directory)
variable (isDirectory : tree.entry? directory = some .directory)
include located isDirectory

theorem makeDirectories_eq : tree.makeDirectories path = (.ok (), tree) := by
  obtain ⟨inside, walked⟩ := locate_eq_ok_iff.mp located
  rw [makeDirectories, inside]
  exact makeAlong_of_walk walked isDirectory

/-- **Where a file is put** by the path of something in a directory. -/
theorem destination_join {name : String} (proper : Path.isFileName name.toList = true)
    (plain : '/' ∉ name.toList) :
    tree.destination (path.join name) = .ok (directory ++ [name]) := by
  obtain ⟨parts, whole, reached⟩ := exists_parts_join located plain
  have inside := isOutside_join (locate_eq_ok_iff.mp located).1 name
  obtain ⟨counts, upwards⟩ := isFileName_iff.mp proper
  obtain ⟨filled, notPoint⟩ : name ≠ "" ∧ name ≠ "." := by simpa [isIdle] using counts
  have ends : endOf (path.join name) = (parts ++ [name], false) := by
    simp [endOf, whole, filled]
  unfold destination
  rw [ends]
  simp [inside, reached, isDirectory, notPoint, upwards, bind, Except.bind, pure, Except.pure]

end Directory

end ElmCodec.FileTree
