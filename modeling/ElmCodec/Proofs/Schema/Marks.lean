/-
**Which marks a schema takes from its declarations.**

A declaration that was taken from a schema brings its mark along, and its fields may be others by
now. Whether such declarations are refused, and why, does not depend on their marks. The schema that
is built adds marks to those that it is given and drops none: it keeps a mark that nothing in the
declaration stands for any more.

* `withoutMarks` — declarations without the marks that they carry.
* `RecordDecl.IsRecursive` — a record that asks for a type of its own or mentions itself.
* `Schema.build_eq_error_withoutMarks` — **refusals do not depend on marks.**
* `Founded`, `AgreeOnMarks` — marks of recursive records only, and marks that differ there only.
* `Schema.build_eq_iff_of_withoutMarks` — **schemas of declarations that differ in their marks.**
-/

import ElmCodec.Proofs.Schema.Documents
import ElmCodec.Proofs.Schema.WellFormed

namespace ElmCodec

/-! ### Declarations and their marks -/

/-- A declaration without its mark. -/
def RecordDecl.unmarked (decl : RecordDecl) : RecordDecl := { decl with selfReferencing := false }

/-- Declarations without their marks. -/
def withoutMarks (declarations : OrderedMap String RecordDecl) : OrderedMap String RecordDecl :=
  declarations.mapEntries fun _ => RecordDecl.unmarked

/-- **A recursive record** asks for a type of its own, or has a field whose type has the record
inside. -/
def RecordDecl.IsRecursive (declares : String → Bool) (record : String) (decl : RecordDecl) : Prop :=
  decl.breaksRecursion = true ∨ ∃ key field type, decl.fields.get? key = some field ∧
    FieldType.parse declares field.typeText = .ok type ∧ FieldType.Inside (.record record) type

/-- Every mark belongs to a record that is recursive. -/
def Founded (declarations : OrderedMap String RecordDecl) : Prop :=
  ∀ record decl, declarations.get? record = some decl → decl.selfReferencing = true →
    decl.IsRecursive declarations.contains record

/-- The marks of declarations are alike where no record is recursive. -/
def AgreeOnMarks (first second : OrderedMap String RecordDecl) : Prop :=
  ∀ record decl other, first.get? record = some decl → second.get? record = some other →
    decl.IsRecursive first.contains record ∨ decl.selfReferencing = other.selfReferencing

theorem RecordDecl.needsOwnType_iff_isRecursive {declares : String → Bool} {record : String}
    {decl : RecordDecl} :
    decl.needsOwnType declares record = true ↔
      decl.selfReferencing = true ∨ decl.IsRecursive declares record := by
  rw [Schema.needsOwnType_iff, IsRecursive]
  simp only [FieldType.mentions_iff]

section Alike

variable {first second : OrderedMap String RecordDecl}

@[simp] theorem keys_withoutMarks (declarations : OrderedMap String RecordDecl) :
    (withoutMarks declarations).keys = declarations.keys :=
  OrderedMap.keys_mapEntries _ _

@[simp] theorem contains_withoutMarks (declarations : OrderedMap String RecordDecl) :
    (withoutMarks declarations).contains = declarations.contains := by
  funext record
  rw [OrderedMap.contains, withoutMarks, OrderedMap.get?_mapEntries, Option.isSome_map,
    OrderedMap.contains]

variable (same : withoutMarks first = withoutMarks second)
include same

/-- Declarations that differ in their marks have the same records, which differ in their marks. -/
theorem map_get?_of_withoutMarks (record : String) :
    (first.get? record).map RecordDecl.unmarked = (second.get? record).map RecordDecl.unmarked := by
  have looked := congrArg (·.get? record) same
  simpa only [withoutMarks, OrderedMap.get?_mapEntries] using looked

theorem unmarked_eq_of_withoutMarks {record : String} {decl other : RecordDecl}
    (found : first.get? record = some decl) (otherFound : second.get? record = some other) :
    decl.unmarked = other.unmarked := by
  have looked := map_get?_of_withoutMarks same record
  rw [found, otherFound] at looked
  exact Option.some.inj looked

theorem contains_eq_of_withoutMarks : first.contains = second.contains := by
  rw [← contains_withoutMarks, same, contains_withoutMarks]

end Alike

/-- What a record is recursive by is no mark. -/
theorem RecordDecl.IsRecursive.congr {declares : String → Bool} {record : String}
    {decl other : RecordDecl} (same : decl.unmarked = other.unmarked)
    (recursive : decl.IsRecursive declares record) : other.IsRecursive declares record := by
  have unmarked : other.unmarked.IsRecursive declares record := same ▸ recursive
  exact unmarked

/-- A declaration is known by what it is without its mark, and by the mark. -/
theorem RecordDecl.marked_eq_iff {declares : String → Bool} {record : String}
    {decl other : RecordDecl} (same : decl.unmarked = other.unmarked) :
    decl.marked declares record = other.marked declares record ↔
      decl.IsRecursive declares record ∨ decl.selfReferencing = other.selfReferencing := by
  have marks : decl.marked declares record = other.marked declares record ↔
      (decl.needsOwnType declares record = true ↔ other.needsOwnType declares record = true) := by
    rw [← Bool.eq_iff_iff]
    have remade (decl : RecordDecl) : decl.marked declares record =
      { decl.unmarked with selfReferencing := decl.needsOwnType declares record } := rfl
    refine ⟨congrArg RecordDecl.selfReferencing, fun mark => ?_⟩
    rw [remade, remade, same, mark]
  have recursive : decl.IsRecursive declares record ↔ other.IsRecursive declares record :=
    ⟨.congr same, .congr same.symm⟩
  rw [marks, needsOwnType_iff_isRecursive, needsOwnType_iff_isRecursive, ← recursive,
    Bool.eq_iff_iff]
  by_cases holds : decl.IsRecursive declares record <;> simp [holds]

namespace Schema

variable {name version : String} {first second : OrderedMap String RecordDecl}

/-! ### Refusals -/

/-- **Refusals do not depend on marks.** -/
theorem build_eq_error_withoutMarks {declarations : OrderedMap String RecordDecl}
    {error : SchemaError} :
    build name version (withoutMarks declarations) = .error error ↔
      build name version declarations = .error error := by
  have entries : (withoutMarks declarations).entries =
      declarations.entries.map fun entry => (entry.1, entry.2.unmarked) := rfl
  have empty : (withoutMarks declarations).isEmpty = declarations.isEmpty := List.isEmpty_map
  have described : ((withoutMarks declarations).entries.forM fun entry =>
        require (!hasCommentDelimiter entry.2.description) (.delimiterInDescription entry.1)) =
      declarations.entries.forM fun entry =>
        require (!hasCommentDelimiter entry.2.description) (.delimiterInDescription entry.1) := by
    rw [entries]
    exact List.forM_map
  have marks : (withoutMarks declarations).entries.mapM (markEntry declarations.contains) =
      declarations.entries.mapM (markEntry declarations.contains) := by
    rw [entries, List.mapM_map]
    rfl
  have noRefusal {made : Schema} : ¬(pure made : Except SchemaError Schema) = .error error := nofun
  unfold build
  simp only [bind_eq_error_iff, empty, described, keys_withoutMarks,
    contains_withoutMarks, marks, noRefusal]

/-- Declarations that differ in their marks are refused alike. -/
theorem build_eq_error_iff_of_withoutMarks (same : withoutMarks first = withoutMarks second)
    {error : SchemaError} :
    build name version first = .error error ↔ build name version second = .error error := by
  rw [← build_eq_error_withoutMarks, same, build_eq_error_withoutMarks]

/-! ### Schemas -/

/-- The schema of a declaration has its mark, and one if it is recursive. -/
theorem selfReferencing_of_build {schema : Schema}
    (built : build name version first = .ok schema) {record : String} {decl : RecordDecl}
    (found : schema.records.get? record = some decl) :
    ∃ given, first.get? record = some given ∧ decl.unmarked = given.unmarked ∧
      (decl.selfReferencing = true ↔
        given.selfReferencing = true ∨ given.IsRecursive first.contains record) := by
  rw [get?_of_build built, Option.map_eq_some_iff] at found
  obtain ⟨given, declared, rfl⟩ := found
  exact ⟨given, declared, rfl, RecordDecl.needsOwnType_iff_isRecursive⟩

/-- **The marks of a schema are made anew** exactly when every mark that was given is founded. -/
theorem isRecursive_iff_founded {schema : Schema}
    (built : build name version first = .ok schema) :
    (∀ record decl, schema.records.get? record = some decl →
      (decl.selfReferencing = true ↔ decl.IsRecursive first.contains record)) ↔ Founded first := by
  constructor
  · intro anew record given declared mark
    have found : schema.records.get? record = some (given.marked first.contains record) := by
      rw [get?_of_build built, declared, Option.map_some]
    have marked : (given.marked first.contains record).selfReferencing = true :=
      RecordDecl.needsOwnType_iff_isRecursive.mpr (.inl mark)
    exact (anew record _ found).mp marked
  · intro founded record decl found
    obtain ⟨given, declared, same, marked⟩ := selfReferencing_of_build built found
    rw [marked, or_iff_right_of_imp (founded record given declared)]
    exact ⟨.congr same.symm, .congr same⟩

variable (same : withoutMarks first = withoutMarks second)
include same

/-- Two schemas are one exactly when the marks that were given differ at recursive records only. -/
theorem eq_iff_of_withoutMarks {schema other : Schema}
    (built : build name version first = .ok schema)
    (otherBuilt : build name version second = .ok other) :
    schema = other ↔ AgreeOnMarks first second := by
  have contains := contains_eq_of_withoutMarks same
  constructor
  · rintro rfl record decl otherDecl found otherFound
    have looked := (get?_of_build built record).symm.trans (get?_of_build otherBuilt record)
    rw [found, otherFound, ← contains] at looked
    exact (RecordDecl.marked_eq_iff (unmarked_eq_of_withoutMarks same found otherFound)).mp
      (Option.some.inj looked)
  · intro agree
    obtain ⟨_, rfl⟩ := build_eq_ok_iff.mp built
    obtain ⟨_, rfl⟩ := build_eq_ok_iff.mp otherBuilt
    refine congrArg (Schema.mk name version) (OrderedMap.eq_of_get? fun record => ?_)
    have looked := map_get?_of_withoutMarks same record
    rw [OrderedMap.get?_mapEntries, OrderedMap.get?_mapEntries, ← contains]
    cases found : first.get? record with
    | none =>
      rw [found, Option.map_none] at looked
      rw [Option.map_eq_none_iff.mp looked.symm]
    | some decl =>
      rw [found, Option.map_some] at looked
      obtain ⟨other, otherFound, unmarked⟩ := Option.map_eq_some_iff.mp looked.symm
      rw [otherFound]
      exact congrArg some ((RecordDecl.marked_eq_iff unmarked.symm).mpr
        (agree record decl other found otherFound))

/-- Two outcomes are one exactly when they are refusals or their schemas are one. -/
theorem build_eq_iff_agreeOnMarks :
    build name version first = build name version second ↔
      (∃ error, build name version first = .error error) ∨ AgreeOnMarks first second := by
  have refused {error : SchemaError} :
      build name version first = .error error ↔ build name version second = .error error :=
    build_eq_error_iff_of_withoutMarks same
  cases built : build name version first with
  | error error =>
    rw [refused.mp built]
    exact ⟨fun _ => .inl ⟨error, rfl⟩, fun _ => rfl⟩
  | ok schema =>
    cases otherBuilt : build name version second with
    | error error =>
      rw [refused.mpr otherBuilt] at built
      cases built
    | ok other =>
      rw [Except.ok.injEq, eq_iff_of_withoutMarks same built otherBuilt,
        or_iff_right (fun ⟨_, impossible⟩ => nomatch impossible)]

/-- Founded marks differ nowhere but at recursive records, which have them all the same. -/
theorem agreeOnMarks_of_founded (founded : Founded first) (otherFounded : Founded second) :
    AgreeOnMarks first second := by
  intro record decl other found otherFound
  have unmarked := unmarked_eq_of_withoutMarks same found otherFound
  refine or_iff_not_imp_left.mpr fun notRecursive => ?_
  have unmarkedDecl : ¬decl.selfReferencing = true := fun mark =>
    notRecursive (founded record decl found mark)
  have unmarkedOther : ¬other.selfReferencing = true := fun mark => by
    have recursive := otherFounded record other otherFound mark
    rw [← contains_eq_of_withoutMarks same] at recursive
    exact notRecursive (recursive.congr unmarked.symm)
  rw [Bool.eq_false_of_not_eq_true unmarkedDecl, Bool.eq_false_of_not_eq_true unmarkedOther]

/-- **Declarations that differ in their marks** are refused alike. The schema of one of them has the
marks that were given and those of the recursive records, so that its marks are those of the
recursive records exactly when no other ones were given. Two of them have the same outcome exactly
when they are refused or their marks differ at recursive records only; so they do if every mark of
either is founded. -/
theorem build_eq_iff_of_withoutMarks (name version : String) :
    (∀ error, build name version first = .error error ↔ build name version second = .error error) ∧
      (∀ schema, build name version first = .ok schema →
        (∀ record decl, schema.records.get? record = some decl →
          ∃ given, first.get? record = some given ∧ decl.unmarked = given.unmarked ∧
            (decl.selfReferencing = true ↔
              given.selfReferencing = true ∨ given.IsRecursive first.contains record)) ∧
        ((∀ record decl, schema.records.get? record = some decl →
          (decl.selfReferencing = true ↔ decl.IsRecursive first.contains record)) ↔
            Founded first)) ∧
      (build name version first = build name version second ↔
        (∃ error, build name version first = .error error) ∨ AgreeOnMarks first second) ∧
      (Founded first → Founded second →
        build name version first = build name version second) :=
  ⟨fun _ => build_eq_error_iff_of_withoutMarks same,
    fun _ built => ⟨fun _ _ found => selfReferencing_of_build built found,
      isRecursive_iff_founded built⟩,
    build_eq_iff_agreeOnMarks same,
    fun founded otherFounded =>
      (build_eq_iff_agreeOnMarks same).mpr (.inr (agreeOnMarks_of_founded same founded otherFounded))⟩

omit same

/-- The fields of a node: one, of the given type. -/
def nodeFields (type : String) : OrderedMap String FieldDecl :=
  .ofList [("next", ⟨type, .optional none⟩)]

/-- The declarations of a node with the given field. -/
def nodeDeclarations (type : String) : OrderedMap String RecordDecl :=
  .ofList [("Node", { description := "", fields := nodeFields type, breaksRecursion := false })]

/-- The records of a schema, which have a mark by now, make the same schema again. -/
theorem node_built_again :
    ∃ schema, build "graph" "1" (nodeDeclarations "Node") = .ok schema ∧
      schema.records ≠ nodeDeclarations "Node" ∧ build "graph" "1" schema.records = .ok schema := by
  obtain ⟨schema, built, other, differ⟩ : ∃ schema,
      build "graph" "1" (nodeDeclarations "Node") = .ok schema ∧
      withoutMarks (nodeDeclarations "Node") = withoutMarks schema.records ∧
      schema.records ≠ nodeDeclarations "Node" :=
    ⟨_, rfl, rfl, by decide +kernel⟩
  have agree : AgreeOnMarks (nodeDeclarations "Node") schema.records := by
    intro record decl _ found _
    cases List.mem_singleton.mp (OrderedMap.mem_entries_iff.mpr found)
    exact .inl (.inr ⟨"next", _, .record "Node", rfl, rfl, .here⟩)
  obtain ⟨_, _, outcomes, _⟩ := build_eq_iff_of_withoutMarks other "graph" "1"
  exact ⟨schema, built, differ, (outcomes.mpr (.inr agree)).symm.trans built⟩

/-- **A mark that nothing stands for any more** is kept: a node is taken from a schema, its field
gets another type, and the schema that is built of it is not that of the same node without a
mark. -/
theorem node_mark_kept :
    ∃ earlier decl schema other, build "graph" "1" (nodeDeclarations "Node") = .ok earlier ∧
      earlier.records.get? "Node" = some decl ∧
      withoutMarks (.ofList [("Node", { decl with fields := nodeFields "int" })]) =
        withoutMarks (nodeDeclarations "int") ∧
      build "graph" "1" (.ofList [("Node", { decl with fields := nodeFields "int" })]) = .ok schema ∧
      build "graph" "1" (nodeDeclarations "int") = .ok other ∧ schema ≠ other ∧
      ∃ kept, schema.records.get? "Node" = some kept ∧ kept.selfReferencing = true ∧
        ¬kept.IsRecursive schema.declares "Node" := by
  refine ⟨_, _, _, _, rfl, rfl, rfl, rfl, rfl, by decide +kernel, _, rfl, rfl, ?_⟩
  rintro (asked | ⟨key, field, type, found, parsed, inside⟩)
  · cases asked
  · cases List.mem_singleton.mp (OrderedMap.mem_entries_iff.mpr found)
    cases parsed
    cases inside

end Schema

end ElmCodec
