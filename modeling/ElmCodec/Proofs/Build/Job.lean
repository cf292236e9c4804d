/-
**What building one schema does to a file tree.**

A file is written as a whole or not at all, and no other file changes. New directories may stay
behind even when the file is not written.

* `FileTree.perform_writeAtomically_of_made` — filling a temporary file and moving it.
* `FileTree.perform_writeAtomically` — **all or nothing**: what writing a file does.
* `FileTree.perform_render` — making the text of a module changes nothing.
* `FileTree.perform_execute` — **all or nothing**: what doing a job does.
* `FileTree.perform_buildSchema_of_planned` — building a schema is doing the job that is planned.
* `FileTree.buildSchema_all_or_nothing` — **a build is all or nothing**, wherever it fails.
-/

import ElmCodec.Build.Job
import ElmCodec.Proofs.FileTree.Writing

namespace ElmCodec.FileTree

/-! ### Writing a file -/

/-- **Filling a temporary file and moving it.** When either fails the file is removed. -/
theorem perform_writeAtomically_of_made {path temporary : Path} {tree middle held : FileTree}
    (made : tree.makeDirectories path.directory = (.ok (), middle))
    (began : middle.makeTemporary path.directory = (.ok temporary, held)) (text : String) :
    perform (writeAtomically path text) tree =
      match held.writeText temporary text with
      | (.error error, after) =>
        (.error (.notWritten path (.atPath temporary error)), after.remove temporary)
      | (.ok (), full) =>
        match full.rename temporary path with
        | (.error error, after) => (.error (.notWritten path error), after.remove temporary)
        | (.ok (), after) => (.ok (), after) := by
  unfold writeAtomically
  simp only [perform_bind, perform_attempt, run_makeDirectories, made, Except.mapError,
    run_makeTemporary, began, perform_liftM, run_writeText]
  rcases held.writeText temporary text with ⟨_ | _, full⟩
  · rfl
  · simp only [perform_bind, perform_liftM, run_rename]
    rcases full.rename temporary path with ⟨_ | _, after⟩ <;> rfl

/-- **All or nothing.** A file that cannot be written leaves all files as they are. A file that is
written is the one that its path leads to, it has the text, and all other files are as they were. -/
theorem perform_writeAtomically (path : Path) (text : String) (tree : FileTree) :
    (∃ failure after, perform (writeAtomically path text) tree = (.error failure, after) ∧
      tree.SameFiles after) ∨
    ∃ directory name after, perform (writeAtomically path text) tree = (.ok (), after) ∧
      Names after path directory name ∧ tree.Puts (directory ++ [name]) text after := by
  have same := makeDirectories_sameFiles tree path.directory
  rcases made : tree.makeDirectories path.directory with ⟨_ | _, middle⟩ <;> rw [made] at same
  · unfold writeAtomically
    simp only [perform_bind, perform_attempt, run_makeDirectories, made]
    exact .inl ⟨_, _, rfl, same⟩
  rcases makeTemporary_cases middle path.directory with
    ⟨error, refused⟩ | ⟨temporary, directory, name, held, began, holds⟩
  · unfold writeAtomically
    simp only [perform_bind, perform_attempt, run_makeDirectories, made, Except.mapError,
      run_makeTemporary, refused]
    exact .inl ⟨_, _, rfl, same⟩
  rw [perform_writeAtomically_of_made made began]
  cases filling : (middle.refusalsAt directory).ofText text with
  | some error =>
    rw [holds.writeText_of_refused filling]
    exact .inl ⟨_, _, rfl, by rwa [holds.remove_eq]⟩
  | none =>
    obtain ⟨full, written, holds⟩ := holds.exists_writeText filling
    rw [written]
    dsimp only
    rcases rename_cases holds.names holds.found path with
      ⟨error, refused⟩ | ⟨above, last, after, moved, target, put⟩
    · rw [refused]
      exact .inl ⟨_, _, rfl, by rwa [holds.remove_eq]⟩
    · rw [moved]
      rw [holds.erase_eq] at put
      exact .inr ⟨above, last, after, rfl, target, same.trans_puts (put text rfl)⟩

/-! ### Doing a job -/

/-- Making the text of a module reads the schema and changes nothing. -/
theorem perform_render (job : Job) (imports : ImportModules) (time : Int) (tree : FileTree) :
    perform (job.render imports time) tree =
      ((tree.readText job.input).mapError (.unreadableSchema job.input) >>=
        job.generate imports time, tree) := by
  unfold Job.render
  rw [perform_bind, perform_attempt, run_readText]
  cases tree.readText job.input with
  | error error => rfl
  | ok source => exact perform_ofExcept _ _

/-- **All or nothing.** A job that fails leaves all files as they are. A job that is done puts the
text of the module where the path of its output leads, and all other files are as they were. -/
theorem perform_execute (job : Job) (imports : ImportModules) (time : Int) (tree : FileTree) :
    (∃ failure after, perform (job.execute imports time) tree = (.error failure, after) ∧
      tree.SameFiles after) ∨
    ∃ text directory name after, perform (job.execute imports time) tree = (.ok (), after) ∧
      perform (job.render imports time) tree = (.ok text, tree) ∧
      Names after job.output directory name ∧ tree.Puts (directory ++ [name]) text after := by
  unfold Job.execute
  rw [perform_bind]
  have unchanged : (perform (job.render imports time) tree).2 = tree := by rw [perform_render]
  cases rendered : perform (job.render imports time) tree with
  | mk outcome after =>
    obtain rfl : after = tree := by rw [← unchanged, rendered]
    cases outcome with
    | error failure => exact .inl ⟨failure, after, rfl, .refl after⟩
    | ok text =>
      rcases perform_writeAtomically job.output text after with failed | ⟨directory, name, done⟩
      · exact .inl failed
      · obtain ⟨result, written, leads, puts⟩ := done
        exact .inr ⟨text, directory, name, result, written, rfl, leads, puts⟩

/-! ### Building a schema -/

section Build

variable (manifest : Manifest) (input : Path) (output : Option Path) (moduleName : Option String)
variable (time : Int) (tree : FileTree)

/-- A schema for which no job can be planned is not even read. -/
theorem perform_buildSchema_of_refused {failure : Failure}
    (refused : Job.plan manifest input output moduleName = .error failure) :
    perform (buildSchema manifest input output moduleName time) tree = (.error failure, tree) := by
  unfold buildSchema
  rw [perform_bind, perform_ofExcept, refused]

/-- Building a schema is doing the job that is planned for it. -/
theorem perform_buildSchema_of_planned {job : Job}
    (planned : Job.plan manifest input output moduleName = .ok job) :
    perform (buildSchema manifest input output moduleName time) tree =
      ((perform (job.execute manifest.imports time) tree).1.map fun _ => job,
        (perform (job.execute manifest.imports time) tree).2) := by
  unfold buildSchema
  rw [perform_bind, perform_ofExcept, planned]
  simp only [perform_bind]
  cases perform (job.execute manifest.imports time) tree with
  | mk outcome after => cases outcome <;> rfl

/-- A schema that is built was planned. -/
theorem plan_of_buildSchema {job : Job} {after : FileTree}
    (built : perform (buildSchema manifest input output moduleName time) tree = (.ok job, after)) :
    Job.plan manifest input output moduleName = .ok job := by
  cases planned : Job.plan manifest input output moduleName with
  | error failure =>
    rw [perform_buildSchema_of_refused _ _ _ _ _ _ planned] at built
    cases built
  | ok other =>
    rw [perform_buildSchema_of_planned _ _ _ _ _ _ planned, Prod.mk.injEq, map_eq_ok_iff] at built
    obtain ⟨⟨_, _, rfl⟩, _⟩ := built
    rfl

/-- **A build is all or nothing.** When no job can be planned, or when the job fails at any point,
every file holds what it held and there is no new one; only directories may be new.
Otherwise the file at the path of the output holds the text of the module, and all other files are
as they were. -/
theorem buildSchema_all_or_nothing :
    (∃ failure after,
      perform (buildSchema manifest input output moduleName time) tree = (.error failure, after) ∧
        tree.SameFiles after) ∨
    ∃ job text goal after,
      perform (buildSchema manifest input output moduleName time) tree = (.ok job, after) ∧
        Job.plan manifest input output moduleName = .ok job ∧
        perform (job.render manifest.imports time) tree = (.ok text, tree) ∧
        after.locate job.output = .ok goal ∧ after.readText job.output = .ok text ∧
        tree.Puts goal text after := by
  cases planned : Job.plan manifest input output moduleName with
  | error failure =>
    exact .inl ⟨failure, tree, perform_buildSchema_of_refused _ _ _ _ _ _ planned, .refl tree⟩
  | ok job =>
    rw [perform_buildSchema_of_planned _ _ _ _ _ _ planned]
    rcases perform_execute job manifest.imports time tree with
      ⟨failure, after, failed, same⟩ | ⟨text, directory, name, after, done, rendered, leads, puts⟩
    · exact .inl ⟨failure, after, by rw [failed]; rfl, same⟩
    · have read : after.readText job.output = .ok text :=
        readText_eq_ok_iff.mpr (contentOf_eq_ok_iff.mpr
          ⟨_, leads.located, content?_eq_some_iff.mpr puts.found⟩)
      exact .inr ⟨job, text, directory ++ [name], after, by rw [done]; rfl, rfl, rendered,
        leads.located, read, puts⟩

end Build

end ElmCodec.FileTree
