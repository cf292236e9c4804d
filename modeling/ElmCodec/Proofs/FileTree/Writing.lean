/-
**What commands do to a file tree.**

* `FileTree.perform` — a command on a file tree: its outcome and the tree that it leaves.
* `FileTree.SameFiles` — two trees have the same files.
* `FileTree.Puts` — a tree has the files of another one, but for one file with a new text.
* `FileTree.makeDirectories_sameFiles`, `FileTree.writeText_eq`, `FileTree.rename_cases`,
  `FileTree.remove_eq` — **what the orders do**, said in these terms.
* `FileTree.WithTemporary` — a tree is another one with a temporary file: it can be filled, and
  without it the tree is the other one again.
-/

import ElmCodec.Proofs.FileTree.Locations

namespace ElmCodec.FileTree

/-! ### Commands -/

/-- A command on a file tree: its outcome, and the tree that it leaves. -/
def perform {α : Type} (command : ExceptT Failure (StateM FileTree) α) (tree : FileTree) :
    Except Failure α × FileTree := command.run.run tree

section Perform

variable {α β : Type} (tree : FileTree)

theorem perform_bind (first : ExceptT Failure (StateM FileTree) α)
    (next : α → ExceptT Failure (StateM FileTree) β) :
    perform (first >>= next) tree =
      match perform first tree with
      | (.ok value, after) => perform (next value) after
      | (.error failure, after) => (.error failure, after) := by
  show (match perform first tree with
    | (outcome, after) => (ExceptT.bindCont next outcome).run after) = _
  cases perform first tree with
  | mk outcome after => cases outcome <;> rfl

theorem perform_liftM (order : StateM FileTree α) :
    perform (liftM order : ExceptT Failure (StateM FileTree) α) tree =
      (.ok (order.run tree).1, (order.run tree).2) := rfl

/-- A command whose failure is looked at instead of ending the command that it is in. -/
theorem perform_run (command : ExceptT Failure (StateM FileTree) α) :
    perform (liftM command.run : ExceptT Failure (StateM FileTree) (Except Failure α)) tree =
      (.ok (perform command tree).1, (perform command tree).2) := rfl

theorem perform_ofExcept (outcome : Except Failure α) :
    perform (ofExcept outcome : ExceptT Failure (StateM FileTree) α) tree = (outcome, tree) := by
  cases outcome <;> rfl

theorem perform_attempt (order : StateM FileTree (Except DiskError α))
    (failure : DiskError → Failure) :
    perform (attempt order failure) tree =
      ((order.run tree).1.mapError failure, (order.run tree).2) := rfl

end Perform

section Runs

variable (tree : FileTree) (path : Path)

theorem run_isDirectory : (Disk.isDirectory path : StateM FileTree _).run tree =
    (tree.isDirectory path, tree) := rfl

theorem run_readText : (Disk.readText path : StateM FileTree _).run tree =
    (tree.readText path, tree) := rfl

theorem run_makeDirectories : (Disk.makeDirectories path : StateM FileTree _).run tree =
    tree.makeDirectories path := rfl

theorem run_makeTemporary : (Disk.makeTemporary path : StateM FileTree _).run tree =
    tree.makeTemporary path := rfl

theorem run_writeText (text : String) : (Disk.writeText path text : StateM FileTree _).run tree =
    tree.writeText path text := rfl

theorem run_rename (target : Path) : (Disk.rename path target : StateM FileTree _).run tree =
    tree.rename path target := rfl

end Runs

/-! ### The files of two trees -/

/-- Two trees have the same files, and the second has the directories of the first. -/
structure SameFiles (before after : FileTree) : Prop where
  directories : before.KeepsDirectories after
  contents : ∀ location, after.content? location = before.content? location

/-- A tree has the files of another one, but for a file with a new text. -/
structure Puts (before : FileTree) (goal : Location) (text : String) (after : FileTree) :
    Prop where
  directories : before.KeepsDirectories after
  contents : ∀ location,
    after.content? location =
      if location = goal then some (.text text) else before.content? location

variable {before middle after tree : FileTree}

namespace SameFiles

theorem refl (tree : FileTree) : tree.SameFiles tree := ⟨.refl tree, fun _ => rfl⟩

theorem trans (first : before.SameFiles middle) (second : middle.SameFiles after) :
    before.SameFiles after :=
  ⟨first.directories.trans second.directories, fun location => by
    rw [second.contents, first.contents]⟩

theorem trans_puts {goal : Location} {text : String} (first : before.SameFiles middle)
    (second : middle.Puts goal text after) : before.Puts goal text after :=
  ⟨first.directories.trans second.directories, fun location => by
    rw [second.contents, first.contents]⟩

end SameFiles

namespace Puts

variable {goal : Location} {text : String}

theorem insert (named : goal ≠ []) (free : tree.entry? goal ≠ some .directory) (text : String) :
    tree.Puts goal text (tree.insert goal (.file text)) :=
  ⟨.insert_file named free text, content?_insert_file named text⟩

theorem found (puts : before.Puts goal text after) : after.entry? goal = some (.file text) := by
  rw [← content?_eq_some_iff, puts.contents, if_pos rfl]

end Puts

/-! ### Orders -/

theorem makeAlong_sameFiles (here : Location) (parts : List String) (tree : FileTree) :
    tree.SameFiles (makeAlong here parts tree).2 := by
  induction parts generalizing here tree with
  | nil => exact .refl tree
  | cons part rest ih =>
    unfold makeAlong
    split
    · exact .refl tree
    · next next _ =>
      split
      · exact ih next tree
      · exact .refl tree
      · next missing =>
        have named : next ≠ [] := by
          rintro rfl
          cases missing
        split
        · exact .refl tree
        · exact SameFiles.trans
            ⟨.insert_directory named, content?_insert_directory named missing⟩ (ih next _)

/-- Making directories changes no file. -/
theorem makeDirectories_sameFiles (tree : FileTree) (path : Path) :
    tree.SameFiles (tree.makeDirectories path).2 := by
  unfold makeDirectories
  split
  · exact .refl tree
  · exact makeAlong_sameFiles _ _ _

section Directory

variable {path : Path} {directory : Location}
variable (located : tree.locate path = .ok directory)
variable (isDirectory : tree.entry? directory = some .directory)
include located isDirectory

/-- **A temporary file** is made in a directory that is there and may be changed. -/
theorem makeTemporary_eq (changeable : (tree.refusalsAt directory).changing = none) :
    tree.makeTemporary path = (.ok (path.join tree.freshName),
      tree.insert (directory ++ [tree.freshName]) (.file "")) := by
  have looked : tree.look path = .ok .directory := look_eq_ok_iff.mpr ⟨_, located, isDirectory⟩
  rw [makeTemporary, looked, located]
  dsimp only
  rw [changeable]

/-- No temporary file is made in a directory that must not be changed. -/
theorem makeTemporary_of_refused {error : DiskError}
    (refused : (tree.refusalsAt directory).changing = some error) :
    tree.makeTemporary path = (.error (.atPath (path.join tree.freshName) error), tree) := by
  have looked : tree.look path = .ok .directory := look_eq_ok_iff.mpr ⟨_, located, isDirectory⟩
  rw [makeTemporary, looked, located]
  dsimp only
  rw [refused]

end Directory

section File

variable {path : Path} {directory : Location} {name : String} {old : Content}
variable (names : Names tree path directory name)
variable (found : tree.entry? (directory ++ [name]) = some (.file old))
include names found

theorem look_file : tree.look path = .ok (.file old) :=
  look_eq_ok_iff.mpr ⟨_, names.located, found⟩

/-- **A file is filled** with a text that its directory takes. -/
theorem writeText_eq {text : String} (taken : (tree.refusalsAt directory).ofText text = none) :
    tree.writeText path text =
      (.ok (), tree.insert (directory ++ [name]) (.file text)) := by
  rw [writeText, look_file names found, names.located]
  dsimp only
  rw [List.dropLast_concat, taken]

theorem writeText_of_refused {text : String} {error : DiskError}
    (refused : (tree.refusalsAt directory).ofText text = some error) :
    tree.writeText path text = (.error error, tree) := by
  rw [writeText, look_file names found, names.located]
  dsimp only
  rw [List.dropLast_concat, refused]

/-- A file is taken out of a directory that may be changed. -/
theorem remove_eq (free : (tree.refusalsAt directory).changing = none) :
    tree.remove path = tree.erase (directory ++ [name]) := by
  rw [remove, look_file names found, names.located]
  dsimp only
  rw [List.dropLast_concat, free]
  rfl

/-- **A file is moved** where a file can be put, but not onto a directory. -/
theorem rename_eq {target : Path} {above : Location} {last : String}
    (goes : tree.destination target = .ok (above ++ [last]))
    (free : (tree.refusalsAt directory).changing = none)
    (free' : (tree.refusalsAt above).changing = none) :
    tree.rename path target =
      if tree.entry? (above ++ [last]) = some .directory then (.error .isADirectory, tree)
      else (.ok (), (tree.erase (directory ++ [name])).insert (above ++ [last]) (.file old)) := by
  rw [rename, look_file names found, names.located, goes]
  dsimp only
  rw [List.dropLast_concat, List.dropLast_concat, free, free']

/-- A file is moved to where a path leads, or it stays. -/
theorem rename_cases (target : Path) :
    (∃ error, tree.rename path target = (.error error, tree)) ∨
      ∃ above last after, tree.rename path target = (.ok (), after) ∧
        Names after target above last ∧
        ∀ text, old = .text text →
          (tree.erase (directory ++ [name])).Puts (above ++ [last]) text after := by
  have cleared : tree.KeepsDirectories (tree.erase (directory ++ [name])) :=
    .erase (by simp) (by simp [found])
  rw [rename, look_file names found, names.located]
  cases goes : tree.destination target with
  | error error => exact .inl ⟨error, rfl⟩
  | ok goal =>
    obtain ⟨above, last, rfl, leads⟩ := Names.of_destination goes
    dsimp only
    split
    · exact .inl ⟨_, rfl⟩
    · exact .inl ⟨_, rfl⟩
    · by_cases taken : tree.entry? (above ++ [last]) = some .directory
      · exact .inl ⟨.isADirectory, if_pos taken⟩
      · have vacant : entry? (tree.erase (directory ++ [name])) (above ++ [last]) ≠
            some .directory := by
          rw [entry?_erase (by simp)]
          split
          · exact nofun
          · exact taken
        have keeps := KeepsDirectories.insert_file (by simp) vacant old
        refine .inr ⟨above, last, _, if_neg taken, leads.mono (cleared.trans keeps), ?_⟩
        rintro text rfl
        exact Puts.insert (by simp) vacant text

end File

/-! ### Temporary files -/

/-- **A tree is another one with a temporary file**, of a new name and with a text, in a directory
that may be changed. -/
structure WithTemporary (before : FileTree) (temporary : Path) (directory : Location)
    (name text : String) (after : FileTree) : Prop where
  whole : after = before.insert (directory ++ [name]) (.file text)
  free : before.entry? (directory ++ [name]) = none
  names : Names after temporary directory name
  changeable : (before.refusalsAt directory).changing = none

/-- A temporary file is empty at first. -/
theorem WithTemporary.start {path : Path} {directory : Location}
    (located : tree.locate path = .ok directory)
    (isDirectory : tree.entry? directory = some .directory)
    (changeable : (tree.refusalsAt directory).changing = none) :
    ∃ held, tree.makeTemporary path = (.ok (path.join tree.freshName), held) ∧
      tree.WithTemporary (path.join tree.freshName) directory tree.freshName "" held := by
  have free := tree.entry?_freshName directory
  have leads : Names tree (path.join tree.freshName) directory tree.freshName :=
    .join (locate_eq_ok_iff.mp located).1 located isDirectory isFileName_freshName freshName_plain
  have empty : tree.Puts (directory ++ [tree.freshName]) "" _ :=
    Puts.insert (by simp) (by simp [free]) ""
  exact ⟨_, makeTemporary_eq located isDirectory changeable, rfl, free,
    leads.mono empty.directories, changeable⟩

namespace WithTemporary

variable {temporary : Path} {directory : Location} {name text other : String}
variable (held : before.WithTemporary temporary directory name text after)
include held

theorem puts : before.Puts (directory ++ [name]) text after := by
  rw [held.whole]
  exact Puts.insert (by simp) (by simp [held.free]) text

theorem found : after.entry? (directory ++ [name]) = some (.file text) := held.puts.found

theorem refusalsAt (location : Location) : after.refusalsAt location = before.refusalsAt location := by
  rw [held.whole, refusalsAt_insert]

/-- Without it the tree is the one of before. -/
theorem erase_eq : after.erase (directory ++ [name]) = before := by
  rw [held.whole]
  exact erase_insert (by rw [← entry?_of_ne_nil (by simp), held.free]) _

/-- **It can be removed**, and nothing is left of it. -/
theorem remove_eq : after.remove temporary = before := by
  have changeable : (after.refusalsAt directory).changing = none := by
    rw [held.refusalsAt, held.changeable]
  rw [FileTree.remove_eq held.names held.found changeable, held.erase_eq]

/-- **It can be filled** with a text that its directory takes. -/
theorem exists_writeText (taken : (before.refusalsAt directory).ofText other = none) :
    ∃ full, after.writeText temporary other = (.ok (), full) ∧
      before.WithTemporary temporary directory name other full := by
  have filled : after.Puts (directory ++ [name]) other _ :=
    Puts.insert (by simp) (by simp [held.found]) other
  refine ⟨_, FileTree.writeText_eq held.names held.found (by rw [held.refusalsAt, taken]), ?_,
    held.free, held.names.mono filled.directories, held.changeable⟩
  rw [held.whole, insert_insert]

theorem writeText_of_refused {error : DiskError}
    (refused : (before.refusalsAt directory).ofText other = some error) :
    after.writeText temporary other = (.error error, after) :=
  FileTree.writeText_of_refused held.names held.found (by rw [held.refusalsAt, refused])

end WithTemporary

/-- A temporary file is made in a directory that may be changed, or nothing is. -/
theorem makeTemporary_cases (tree : FileTree) (path : Path) :
    (∃ error, tree.makeTemporary path = (.error error, tree)) ∨
      ∃ temporary directory name held, tree.makeTemporary path = (.ok temporary, held) ∧
        tree.WithTemporary temporary directory name "" held := by
  cases looked : tree.look path with
  | error error => exact .inl ⟨_, by rw [makeTemporary, looked]⟩
  | ok entry =>
    obtain ⟨location, located, found⟩ := look_eq_ok_iff.mp looked
    cases entry with
    | file content => exact .inl ⟨_, by rw [makeTemporary, looked]⟩
    | directory =>
      cases changing : (tree.refusalsAt location).changing with
      | some error => exact .inl ⟨_, makeTemporary_of_refused located found changing⟩
      | none =>
        obtain ⟨held, made, holds⟩ := WithTemporary.start located found changing
        exact .inr ⟨_, location, _, held, made, holds⟩

end ElmCodec.FileTree
