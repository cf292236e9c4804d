/-
**Building a tree leaves its schemas alone.**

Modules are written under the names of their schemas with another extension. A module therefore
takes the place of a schema only if names of modules count as names of schemas, which they do when
the output extension ends in a point and the schema extension. A manifest with such extensions
passes its check, which only asks that they differ.

* `FileTree.Keeps` — a tree has all files of another one that have an extension.
* `outputPath_apart` — **the file of a module is no schema**, unless the output extension ends so.
* `keeps_buildFile`, `keeps_buildFiles` — what building one schema keeps, and what building several
  keeps, in any order.
* `buildTree_keeps_schemas` — **building a tree keeps every schema**, unless the output extension
  ends so.
* `buildTree_overwrites_schema` — a schema that is lost otherwise.
-/

import ElmCodec.Proofs.Build.Runs

namespace ElmCodec

open FileTree

/-! ### Files with an extension -/

/-- A tree has the directories of another one and all files of it that have an extension. -/
structure FileTree.Keeps (extension : String) (before after : FileTree) : Prop where
  directories : before.KeepsDirectories after
  contents : ∀ {directory name content}, (Path.splitName name.toList).2 = some extension.toList →
    before.content? (directory ++ [name]) = some content →
      after.content? (directory ++ [name]) = some content

namespace FileTree.Keeps

variable {extension : String} {before middle after : FileTree}

theorem refl (tree : FileTree) : Keeps extension tree tree := ⟨.refl tree, fun _ => id⟩

theorem trans (first : Keeps extension before middle) (second : Keeps extension middle after) :
    Keeps extension before after :=
  ⟨first.directories.trans second.directories, fun named found =>
    second.contents named (first.contents named found)⟩

theorem of_sameFiles (same : before.SameFiles after) : Keeps extension before after :=
  ⟨same.directories, fun _ found => (same.contents _).trans found⟩

/-- A new text for a file with another extension. -/
theorem of_puts {directory : Location} {name text : String}
    (puts : before.Puts (directory ++ [name]) text after)
    (apart : (Path.splitName name.toList).2 ≠ some extension.toList) :
    Keeps extension before after := by
  refine ⟨puts.directories, fun {other otherName _} named found => ?_⟩
  rw [puts.contents, if_neg, found]
  intro same
  have sameName : otherName = name := (List.cons.inj (List.append_inj' same rfl).2).1
  exact apart (sameName ▸ named)

/-- What is in a file with the extension is as before. -/
theorem contentOf (keeps : Keeps extension before after) {file : Path} {content : Content}
    (named : file.extension? = some extension) (given : before.contentOf file = .ok content) :
    after.contentOf file = .ok content := by
  have proper := (Path.extension_eq_some_iff.mp named).1
  obtain ⟨directory, name, leads, found⟩ := Names.of_contentOf given proper
  exact contentOf_eq_ok_iff.mpr ⟨_, keeps.directories.locate leads.located,
    keeps.contents (leads.extension?_eq_some_iff.mp named) found⟩

end FileTree.Keeps

/-! ### Where modules go -/

section Build

variable {manifest : Manifest} (valid : manifest.validate = .ok ())
variable (apart : ¬ '.' :: manifest.schemaExtension.toList <:+ manifest.outputExtension.toList)
include valid apart

/-- **The file of a module has not the extension of schemas.** -/
theorem outputPath_apart {input output : Path} (goes : outputPath manifest input = .ok output) :
    output.extension? ≠ some manifest.schemaExtension := by
  obtain ⟨_, inhabited, differ, _⟩ := Manifest.validate_eq_ok_iff.mp valid
  intro named
  rcases Path.withExtension_ends (outputPath_eq_ok_iff.mp goes) (by simpa using inhabited) with
    none | ends
  · rw [none] at named
    cases named
  · have differ : manifest.schemaExtension.toList ≠ manifest.outputExtension.toList :=
      fun same => differ (String.toList_inj.mp same)
    exact Path.extension_apart ends differ apart (Path.extension_eq_some_iff.mp named).2

theorem keeps_buildSchema (input : Path) (time : Int) (tree : FileTree) :
    Keeps manifest.schemaExtension tree
      (perform (buildSchema manifest input none none time) tree).2 := by
  cases planned : Job.plan manifest input none none with
  | error failure =>
    rw [perform_buildSchema_of_refused _ _ _ _ _ _ planned]
    exact .refl tree
  | ok job =>
    rw [perform_buildSchema_of_planned _ _ _ _ _ _ planned]
    rcases perform_execute job manifest.imports time tree with
      ⟨failure, after, failed, same⟩ | ⟨text, directory, name, after, done, _, leads, puts⟩
    · rw [failed]
      exact .of_sameFiles same
    · rw [done]
      have named := outputPath_apart valid apart (Job.plan_eq_ok_iff.mp planned).2.1
      rw [ne_eq, leads.extension?_eq_some_iff] at named
      exact .of_puts puts named

/-- **Building one schema of a tree** keeps all schemas, whether it succeeds or not. -/
theorem keeps_buildFile (time : Int) (input : Path) (tree : FileTree) :
    Keeps manifest.schemaExtension tree (perform (buildFile manifest time input) tree).2 := by
  rw [perform_buildFile]
  exact keeps_buildSchema valid apart input time tree

/-- **Building several schemas**, one after the other and in any order, keeps all schemas. It does
not matter which of them fail, or whether a failure ends the run. -/
theorem keeps_buildFiles (time : Int) (inputs : List Path) (tree : FileTree) :
    Keeps manifest.schemaExtension tree
      (perform (inputs.mapM (buildFile manifest time)) tree).2 := by
  induction inputs generalizing tree with
  | nil => exact .refl tree
  | cons input rest ih =>
    have first := keeps_buildFile valid apart time input tree
    rw [List.mapM_cons, perform_bind]
    cases built : perform (buildFile manifest time input) tree with
    | mk outcome middle =>
      rw [built] at first
      cases outcome with
      | error failure => exact first
      | ok result =>
        have others := ih middle
        simp only [perform_bind]
        cases ran : perform (rest.mapM (buildFile manifest time)) middle with
        | mk outcomes after =>
          rw [ran] at others
          cases outcomes <;> exact first.trans others

end Build

/-! ### Whole trees -/

/-- **Building a tree keeps every schema.** Every file that is found below the root is there, and
what is in it is what was in it before, whichever schemas fail and in whatever order they are built,
if the output extension does not end in a point and the schema extension. -/
theorem buildTree_keeps_schemas {manifest : Manifest} (valid : manifest.validate = .ok ())
    (apart : ¬ '.' :: manifest.schemaExtension.toList <:+ manifest.outputExtension.toList)
    {root : Path} {tree : FileTree} {found : Discovery}
    (discovered : (perform (discover root manifest.schemaExtension) tree).1 = .ok found)
    {file : Path} (member : file ∈ found.files) (time : Int) :
    (tree.WellFormed → ∃ content, tree.contentOf file = .ok content) ∧
      ∀ content, tree.contentOf file = .ok content →
        (perform (buildTree manifest root time) tree).2.contentOf file = .ok content ∧
        ∀ order : List Path, order.Perm found.files →
          (perform (order.mapM (buildFile manifest time)) tree).2.contentOf file = .ok content := by
  refine ⟨fun wellFormed => exists_content_of_discover discovered wellFormed member,
    fun content given => ?_⟩
  have keeps : ∀ order : List Path,
      (perform (order.mapM (buildFile manifest time)) tree).2.contentOf file = .ok content :=
    fun order => (keeps_buildFiles valid apart time order tree).contentOf
      (extension_of_discover discovered member) given
  have whole : perform (discover root manifest.schemaExtension) tree = (.ok found, tree) :=
    Prod.ext discovered (by rw [perform_discover])
  have same : (perform (buildTree manifest root time) tree).2 =
      (perform (found.files.mapM (buildFile manifest time)) tree).2 := by
    unfold buildTree
    rw [perform_bind, whole]
    simp only [perform_bind]
    cases perform (found.files.mapM (buildFile manifest time)) tree with
    | mk outcome after => cases outcome <;> rfl
  exact ⟨same ▸ keeps found.files, fun order _ => keeps order⟩

/-- A tree with a schema that gives a module, and one that is not finished. -/
def drafts : FileTree :=
  (({} : FileTree).insert ["A.yaml"]
    (.file "name: s\nversion: 1\nobjects:\n  A:\n    fields: \x7b\x7d\n")).insert
      ["A.Gen.yaml"] (.file "name: Draft\n")

theorem drafts_wellFormed : drafts.WellFormed := .of_keys (by decide +kernel)

/-- With the standard extensions both stay, though one fails. -/
theorem drafts_kept :
    ∃ manifest : Manifest, manifest.validate = .ok () ∧
      ¬ '.' :: manifest.schemaExtension.toList <:+ manifest.outputExtension.toList ∧
      (perform (discover ⟨"."⟩ manifest.schemaExtension) drafts).1 =
        .ok ⟨[⟨"./A.Gen.yaml"⟩, ⟨"./A.yaml"⟩], []⟩ ∧
      (∃ content, drafts.contentOf ⟨"./A.Gen.yaml"⟩ = .ok content ∧
        (perform (buildTree manifest ⟨"."⟩ 0) drafts).2.contentOf ⟨"./A.Gen.yaml"⟩ =
          .ok content) ∧
      ∃ content, drafts.contentOf ⟨"./A.yaml"⟩ = .ok content ∧
        (perform (buildTree manifest ⟨"."⟩ 0) drafts).2.contentOf ⟨"./A.yaml"⟩ = .ok content := by
  have valid : Manifest.validate {} = .ok () := by decide +kernel
  have apart : ¬ '.' :: "yaml".toList <:+ "elm".toList := by decide
  have found : (perform (discover ⟨"."⟩ "yaml") drafts).1 =
      .ok ⟨[⟨"./A.Gen.yaml"⟩, ⟨"./A.yaml"⟩], []⟩ := by decide +kernel
  have kept : ∀ file ∈ ([⟨"./A.Gen.yaml"⟩, ⟨"./A.yaml"⟩] : List Path), ∃ content,
      drafts.contentOf file = .ok content ∧
        (perform (buildTree {} ⟨"."⟩ 0) drafts).2.contentOf file = .ok content := by
    intro file member
    obtain ⟨there, kept⟩ := buildTree_keeps_schemas valid apart found member 0
    obtain ⟨content, given⟩ := there drafts_wellFormed
    exact ⟨content, given, (kept content given).1⟩
  exact ⟨{}, valid, apart, found, kept _ (by simp), kept _ (by simp)⟩

/-- With an output extension that ends in that of schemas, a module takes the place of a schema. -/
theorem buildTree_overwrites_schema :
    ∃ manifest : Manifest, manifest.validate = .ok () ∧
      (perform (discover ⟨"."⟩ manifest.schemaExtension) drafts).1 =
        .ok ⟨[⟨"./A.Gen.yaml"⟩, ⟨"./A.yaml"⟩], []⟩ ∧
      drafts.readText ⟨"./A.Gen.yaml"⟩ = .ok "name: Draft\n" ∧
      (perform (buildTree manifest ⟨"."⟩ 0) drafts).2.readText ⟨"./A.Gen.yaml"⟩ ≠
        .ok "name: Draft\n" := by
  refine ⟨{ outputExtension := "Gen.yaml" }, ?_, ?_, ?_, ?_⟩
  · decide +kernel
  · decide +kernel
  · decide +kernel
  · decide +kernel

end ElmCodec
