/-
**Commands that run side by side on one file tree.**

A command is taken apart into the orders that it gives: each order changes the tree at once, and
what the command does next depends on the tree that the order was given to. Commands run side by
side when their orders come one after the other in any way.

* `Steps` — a command as its orders.
* `Crew` — commands that run side by side, by the files that they are about, and their tree.
* `Crew.Moves` — one of the commands gives its next order.
* `Crew.Reaches` — what can become of them.
* `Crew.exists_finished` — all of them come to their ends, whatever happened before.
-/

import Mathlib.Data.List.Basic
import Mathlib.Logic.Relation
import ElmCodec.Proofs.FileTree.Writing

namespace ElmCodec

/-! ### Commands as their orders -/

/-- A command that has come to its end, or the next order that it gives. -/
inductive Steps (α : Type) : Type where
  | done (value : α)
  | step (change : FileTree → FileTree) (next : FileTree → Steps α)

namespace Steps

variable {α β : Type}

/-- One command after another. -/
def andThen (next : α → Steps β) : Steps α → Steps β
  | done value => next value
  | step change after => step change fun tree => andThen next (after tree)

instance : Monad Steps where
  pure := done
  bind steps next := andThen next steps

theorem andThen_assoc {γ : Type} (steps : Steps α) (first : α → Steps β) (second : β → Steps γ) :
    andThen second (andThen first steps) =
      andThen (fun value => andThen second (first value)) steps := by
  induction steps with
  | done value => rfl
  | step change next ih => exact congrArg (step change) (funext ih)

theorem andThen_done (steps : Steps α) : andThen done steps = steps := by
  induction steps with
  | done value => rfl
  | step change next ih => exact congrArg (step change) (funext ih)

instance : LawfulMonad Steps :=
  LawfulMonad.mk' Steps andThen_done (fun _ _ => rfl) andThen_assoc

/-- A single order. -/
def order (run : FileTree → α × FileTree) : Steps α :=
  step (fun tree => (run tree).2) fun tree => done (run tree).1

/-- The orders do what they do when nothing runs beside them. -/
instance : Disk Steps where
  isDirectory path := order fun tree => (tree.isDirectory path, tree)
  isFile path := order fun tree => (tree.isFile path, tree)
  readText path := order fun tree => (tree.readText path, tree)
  survey path := order fun tree => (tree.survey path, tree)
  makeDirectories path := order (·.makeDirectories path)
  makeTemporary path := order (·.makeTemporary path)
  writeText path text := order (·.writeText path text)
  rename source target := order (·.rename source target)
  remove path := order fun tree => ((), tree.remove path)

section Orders

variable (path : Path)

theorem readText_eq : (Disk.readText path : Steps _) =
    order fun tree => (tree.readText path, tree) := rfl

theorem makeDirectories_eq : (Disk.makeDirectories path : Steps _) =
    order (·.makeDirectories path) := rfl

theorem makeTemporary_eq : (Disk.makeTemporary path : Steps _) =
    order (·.makeTemporary path) := rfl

theorem writeText_eq (text : String) : (Disk.writeText path text : Steps _) =
    order (·.writeText path text) := rfl

theorem rename_eq (target : Path) : (Disk.rename path target : Steps _) =
    order (·.rename path target) := rfl

theorem remove_eq : (Disk.remove path : Steps _) =
    order fun tree => ((), tree.remove path) := rfl

end Orders

end Steps

/-! ### Commands side by side -/

/-- Commands that run side by side, each about one file, and the tree that they share. -/
structure Crew (α : Type) where
  steps : Path → Steps α
  tree : FileTree

namespace Crew

variable {α : Type} {files : List Path} {crew other : Crew α}

/-- **One of the commands gives its next order.** -/
inductive Moves (files : List Path) : Crew α → Crew α → Prop where
  | move {crew : Crew α} {file : Path} {change : FileTree → FileTree}
      {next : FileTree → Steps α} (member : file ∈ files)
      (ready : crew.steps file = .step change next) :
      Moves files crew ⟨Function.update crew.steps file (next crew.tree), change crew.tree⟩

/-- What can become of commands. -/
def Reaches (files : List Path) : Crew α → Crew α → Prop := Relation.ReflTransGen (Moves files)

/-- All commands have come to their ends. -/
def Finished (files : List Path) (crew : Crew α) : Prop :=
  ∀ file ∈ files, ∃ value, crew.steps file = .done value

/-- A command can come to its end while the others wait. -/
theorem exists_done {file : Path} (member : file ∈ files) (crew : Crew α) :
    ∃ other, Reaches files crew other ∧ (∃ value, other.steps file = .done value) ∧
      ∀ path, path ≠ file → other.steps path = crew.steps path := by
  obtain ⟨steps, tree⟩ := crew
  generalize here : steps file = command
  induction command generalizing steps tree with
  | done value => exact ⟨⟨steps, tree⟩, .refl, ⟨value, here⟩, fun _ _ => rfl⟩
  | step change next ih =>
    obtain ⟨other, reached, ended, waited⟩ := ih tree (Function.update steps file (next tree))
      (change tree) (Function.update_self ..)
    refine ⟨other, .head (.move member here) reached, ended, fun path differs => ?_⟩
    exact (waited path differs).trans (Function.update_of_ne differs _ _)

/-- **All commands come to their ends**, whatever happened before. -/
theorem exists_finished (files : List Path) (crew : Crew α) :
    ∃ other, Reaches files crew other ∧ other.Finished files := by
  suffices general : ∀ rest ⊆ files, ∃ other, Reaches files crew other ∧ other.Finished rest from
    general files fun _ => id
  intro rest inside
  induction rest with
  | nil => exact ⟨crew, .refl, nofun⟩
  | cons file rest ih =>
    obtain ⟨middle, reached, finished⟩ := ih (List.subset_of_cons_subset inside)
    obtain ⟨other, reached', ended, waited⟩ := exists_done (inside List.mem_cons_self) middle
    refine ⟨other, reached.trans reached', List.forall_mem_cons.mpr ⟨ended, fun path member => ?_⟩⟩
    by_cases same : path = file
    · rwa [same]
    · rw [waited path same]
      exact finished path member

end Crew

end ElmCodec
