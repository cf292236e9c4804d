/-
**Stages of building several schemas.**

* `Part` — what a command is to come to.
* `FileTree.put`, `FileTree.putAll` — trees with the texts of parts at their places.
* `FileTree.putAll_perm` — **texts can be put into a tree in any order**, if they go to different
  places.
* `FileTree.StageOf` — a tree at a stage of a run: it has the directories and the schemas of before,
  and refuses the same.
-/

import ElmCodec.Proofs.FileTree.Locations

namespace ElmCodec

/-- What a command is to come to: a value, and maybe a text at a place. -/
structure Part (α : Type) where
  goal : Location
  text? : Option String
  value : α

namespace FileTree

variable {tree stage : FileTree}

/-! ### Texts at several places -/

/-- A tree with a text at a location, if there is one. -/
def put (tree : FileTree) (goal : Location) : Option String → FileTree
  | none => tree
  | some text => tree.insert goal (.file text)

/-- A tree with the texts of several parts at their places. -/
def putAll {α : Type} (tree : FileTree) (parts : Path → Part α) (files : List Path) : FileTree :=
  files.foldl (fun stage file => stage.put (parts file).goal (parts file).text?) tree

theorem put_comm {first second : Location} (differ : first ≠ second)
    (text? other? : Option String) :
    (tree.put first text?).put second other? = (tree.put second other?).put first text? := by
  cases text? with
  | none => rfl
  | some text =>
    cases other? with
    | none => rfl
    | some other => exact insert_comm differ _ _

/-- A text that is there already changes nothing. -/
theorem put_eq_self {goal : Location} {text? : Option String}
    (there : ∀ text, text? = some text → tree.entries.get? goal = some (.file text)) :
    tree.put goal text? = tree := by
  cases text? with
  | none => rfl
  | some text =>
    refine eq_of_get? (fun location => (get?_insert ..).trans ?_) rfl rfl
    split
    · next here => rw [here, there text rfl]
    · rfl

/-- A text changes neither what is refused nor what is drawn. -/
theorem setting_put (goal : Location) (text? : Option String) :
    (tree.put goal text?).refusals = tree.refusals ∧ (tree.put goal text?).draw = tree.draw := by
  cases text? <;> exact ⟨rfl, rfl⟩

section PutAll

variable {α : Type} {parts : Path → Part α} {files order : List Path}

theorem setting_putAll (parts : Path → Part α) (files : List Path) (tree : FileTree) :
    (tree.putAll parts files).refusals = tree.refusals ∧
      (tree.putAll parts files).draw = tree.draw := by
  induction files generalizing tree with
  | nil => exact ⟨rfl, rfl⟩
  | cons file rest ih =>
    obtain ⟨refusals, draw⟩ := ih (tree.put (parts file).goal (parts file).text?)
    exact ⟨refusals.trans (setting_put _ _).1, draw.trans (setting_put _ _).2⟩

section Distinct

variable (distinct : ∀ file ∈ order, ∀ other ∈ order, file ≠ other →
  (parts file).goal ≠ (parts other).goal)
include distinct

/-- **Texts for different places** can be put there in any order. -/
theorem putAll_perm (perm : order.Perm files) :
    tree.putAll parts order = tree.putAll parts files := by
  refine perm.foldl_eq' (fun file member other member' stage => ?_) tree
  by_cases same : file = other
  · rw [same]
  · exact put_comm (distinct file member other member' same) _ _

/-- Every text is in its place in the end. -/
theorem get?_putAll {file : Path} (member : file ∈ order) {text : String}
    (there : (parts file).text? = some text) :
    (tree.putAll parts order).entries.get? (parts file).goal = some (.file text) := by
  have perm : order.Perm (order.erase file ++ [file]) :=
    (List.perm_cons_erase member).trans (List.perm_append_singleton file _).symm
  rw [putAll_perm distinct perm, putAll, List.foldl_concat, there]
  exact (OrderedMap.get?_insert _ _ _ _).trans (if_pos rfl)

end Distinct

/-- Where no text is put there is what was there before. -/
theorem get?_putAll_of_absent {location : Location}
    (absent : ∀ file ∈ order, (parts file).goal = location → (parts file).text? = none) :
    (tree.putAll parts order).entries.get? location = tree.entries.get? location := by
  induction order generalizing tree with
  | nil => rfl
  | cons file rest ih =>
    rw [List.forall_mem_cons] at absent
    rw [putAll, List.foldl_cons]
    refine (ih absent.2).trans ?_
    cases put : (parts file).text? with
    | none => rfl
    | some text =>
      refine (OrderedMap.get?_insert _ _ _ _).trans (if_neg ?_)
      rintro rfl
      rw [absent.1 rfl] at put
      cases put

end PutAll

/-! ### Stages of a run -/

/-- **A tree at a stage of a run** has the directories of before, and the files with an extension,
and it refuses the same. It may be a stage of another run, which draws other names. -/
structure StageOf (extension : String) (tree stage : FileTree) : Prop where
  directories : ∀ location,
    stage.entry? location = some .directory ↔ tree.entry? location = some .directory
  sources : ∀ {directory name}, (Path.splitName name.toList).2 = some extension.toList →
    stage.content? (directory ++ [name]) = tree.content? (directory ++ [name])
  refusals : stage.refusals = tree.refusals

namespace StageOf

variable {extension : String}

theorem refl (tree : FileTree) : StageOf extension tree tree :=
  ⟨fun _ => .rfl, fun _ => rfl, rfl⟩

/-- What one tree has of the other, the other has of the one. -/
theorem symm (ofStage : StageOf extension tree stage) : StageOf extension stage tree :=
  ⟨fun location => (ofStage.directories location).symm, fun named => (ofStage.sources named).symm,
    ofStage.refusals.symm⟩

/-- A stage of a stage is one. -/
theorem trans {later : FileTree} (first : StageOf extension tree stage)
    (second : StageOf extension stage later) : StageOf extension tree later :=
  ⟨fun location => (second.directories location).trans (first.directories location),
    fun named => (second.sources named).trans (first.sources named),
    second.refusals.trans first.refusals⟩

/-- A run may start at any stage. -/
theorem drawn (ofStage : StageOf extension tree stage) (draw : Nat) :
    StageOf extension tree (stage.drawn draw) :=
  ⟨ofStage.directories, ofStage.sources, ofStage.refusals⟩

theorem refusalsAt (ofStage : StageOf extension tree stage) (location : Location) :
    stage.refusalsAt location = tree.refusalsAt location := by
  rw [FileTree.refusalsAt, FileTree.refusalsAt, ofStage.refusals]

theorem keepsDirectories (ofStage : StageOf extension tree stage) :
    tree.KeepsDirectories stage :=
  fun location => (ofStage.directories location).mpr

/-- A file with another extension is put in no directory's place. -/
theorem put (ofStage : StageOf extension tree stage) {directory : Location} {name : String}
    (free : tree.entry? (directory ++ [name]) ≠ some .directory)
    (differs : (Path.splitName name.toList).2 ≠ some extension.toList) (text? : Option String) :
    StageOf extension tree (stage.put (directory ++ [name]) text?) := by
  cases text? with
  | none => exact ofStage
  | some text =>
    refine ⟨fun location => ?_, fun {above other} named => ?_, ofStage.refusals⟩
    · rw [FileTree.put, entry?_insert (by simp)]
      split
      · next here => simp [here, free]
      · exact ofStage.directories location
    · rw [FileTree.put, content?_insert_file (by simp), if_neg, ofStage.sources named]
      intro here
      obtain ⟨_, same⟩ := List.append_inj' here rfl
      rw [(List.cons.inj same).1] at named
      exact differs named

end StageOf

end FileTree

end ElmCodec
