/-
**Which declarations make a schema, and which schema they make.**

* `Schema.Accepts` — the rules that a name, a version and declarations have to keep.
* `RecordDecl.marked` — a declaration with its mark: a record needs a type of its own when it is
  marked already, asks for one or mentions itself.
* `Schema.build_eq_ok_iff` — **the schema of declarations** exists exactly when they keep the
  rules, and then holds them with their marks.
-/

import Mathlib.Data.List.Nodup
import ElmCodec.Proofs.FieldType.Scope
import ElmCodec.Proofs.OrderedMap

namespace ElmCodec

open ElmCodec.Text

/-! ### Marks -/

namespace RecordDecl

/-- Whether a field of a declaration mentions a record. -/
def mentions (declares : String → Bool) (decl : RecordDecl) (other : String) : Bool :=
  decl.fields.values.any fun field =>
    match FieldType.parse declares field.typeText with
    | .ok type => type.mentions other
    | .error _ => false

/-- Whether the record of a declaration needs a type of its own. -/
def needsOwnType (declares : String → Bool) (name : String) (decl : RecordDecl) : Bool :=
  decl.selfReferencing || (decl.breaksRecursion || decl.mentions declares name)

/-- A declaration with its mark. -/
def marked (declares : String → Bool) (name : String) (decl : RecordDecl) : RecordDecl :=
  { decl with selfReferencing := decl.needsOwnType declares name }

/-- The type of every field can be read. -/
def Typed (declares : String → Bool) (decl : RecordDecl) : Prop :=
  ∀ field ∈ decl.fields.values, ∃ type, FieldType.parse declares field.typeText = .ok type

theorem mentions_iff {declares : String → Bool} {decl : RecordDecl} {other : String} :
    decl.mentions declares other = true ↔
      ∃ field ∈ decl.fields.values, ∃ type,
        FieldType.parse declares field.typeText = .ok type ∧ type.mentions other = true := by
  rw [mentions, List.any_eq_true]
  refine exists_congr fun field => and_congr_right fun _ => ?_
  cases FieldType.parse declares field.typeText with
  | error refusal => exact ⟨nofun, nofun⟩
  | ok type =>
    constructor
    · exact fun mentioned => ⟨type, rfl, mentioned⟩
    · rintro ⟨_, same, mentioned⟩
      cases same
      exact mentioned

end RecordDecl

namespace Schema

variable {declares : String → Bool}

theorem fieldTypes_eq_ok {decl : RecordDecl} {types : List FieldType}
    (read : fieldTypes declares decl = .ok types) :
    decl.Typed declares ∧ ∀ other, types.any (·.mentions other) = decl.mentions declares other := by
  rw [fieldTypes, mapM_eq_ok_iff] at read
  unfold RecordDecl.Typed RecordDecl.mentions
  generalize decl.fields.values = fields at read ⊢
  induction read with
  | nil => exact ⟨nofun, fun _ => rfl⟩
  | cons first _ ih =>
    refine ⟨List.forall_mem_cons.mpr ⟨⟨_, first⟩, ih.1⟩, fun other => ?_⟩
    rw [List.any_cons, List.any_cons, ih.2 other, first]

theorem fieldTypes_isOk {decl : RecordDecl} (typed : decl.Typed declares) :
    ∃ types, fieldTypes declares decl = .ok types := by
  obtain ⟨types, each⟩ := exists_results typed
  exact ⟨types, mapM_eq_ok_iff.mpr each⟩

/-- The mark that a declaration gets apart from the one that it has. -/
def newMark (declares : String → Bool) (entry : String × RecordDecl) : String × Bool :=
  (entry.1, entry.2.breaksRecursion || entry.2.mentions declares entry.1)

theorem markEntry_eq_ok_iff (entry : String × RecordDecl) (mark : String × Bool) :
    markEntry declares entry = .ok mark ↔
      entry.2.Typed declares ∧ mark = newMark declares entry := by
  rw [markEntry, bind_eq_ok_iff]
  constructor
  · rintro ⟨types, read, marking⟩
    obtain ⟨typed, same⟩ := fieldTypes_eq_ok read
    rw [← pure_eq_ok_iff.mp marking, newMark, same]
    exact ⟨typed, rfl⟩
  · rintro ⟨typed, rfl⟩
    obtain ⟨types, read⟩ := fieldTypes_isOk typed
    refine ⟨types, read, ?_⟩
    rw [pure_eq_ok_iff, newMark, (fieldTypes_eq_ok read).2]

/-- A record has the mark `true` exactly when its own declaration gets it. -/
theorem contains_newMark (records : OrderedMap String RecordDecl) {name : String}
    {decl : RecordDecl} (member : (name, decl) ∈ records.entries) :
    (records.entries.map (newMark declares)).contains (name, true) =
      (decl.breaksRecursion || decl.mentions declares name) := by
  rw [Bool.eq_iff_iff, List.contains_iff_mem, List.mem_map]
  constructor
  · rintro ⟨⟨other, found⟩, inside, same⟩
    obtain ⟨rfl, mark⟩ := Prod.mk.inj same
    have equal := (OrderedMap.mem_entries_iff.mp inside).symm.trans
      (OrderedMap.mem_entries_iff.mp member)
    rw [← Option.some.inj equal]
    exact mark
  · exact fun mark => ⟨(name, decl), member, Prod.ext rfl mark⟩

/-! ### The rules -/

theorem checkTypeNames_eq_ok_iff {earlier names : List String} :
    checkTypeNames earlier names = .ok () ↔
      (∀ name ∈ names, Elm.isTypeName (Elm.displayName name) = true) ∧
        (names.map Elm.displayName).Nodup ∧ ∀ name ∈ names, Elm.displayName name ∉ earlier := by
  induction names generalizing earlier with
  | nil => exact ⟨fun _ => ⟨nofun, .nil, nofun⟩, fun _ => rfl⟩
  | cons name rest ih =>
    rw [checkTypeNames, List.map_cons, List.nodup_cons, List.forall_mem_cons, List.forall_mem_cons]
    by_cases valid : Elm.isTypeName (Elm.displayName name) = true
    · by_cases taken : Elm.displayName name ∈ earlier
      · rw [valid]
        simp [taken]
      · have clear : ∀ other ∈ rest, (Elm.displayName other ∉ Elm.displayName name :: earlier ↔
            Elm.displayName name ≠ Elm.displayName other ∧ Elm.displayName other ∉ earlier) :=
          fun other _ => by rw [List.mem_cons, not_or, ne_comm]
        rw [valid]
        simp only [Bool.not_true, Bool.false_eq_true, if_false, taken, ih, true_and,
          not_false_eq_true, List.mem_map, not_exists, not_and]
        constructor
        · rintro ⟨all, distinct, fresh⟩
          exact ⟨all, ⟨fun other member same =>
            ((clear other member).mp (fresh other member)).1 same.symm, distinct⟩,
            fun other member => ((clear other member).mp (fresh other member)).2⟩
        · rintro ⟨all, ⟨unlike, distinct⟩, fresh⟩
          exact ⟨all, distinct, fun other member => (clear other member).mpr
            ⟨fun same => unlike other member same.symm, fresh other member⟩⟩
    · simp [valid]

/-- **The rules for declarations.** -/
structure Accepts (name version : String) (records : OrderedMap String RecordDecl) : Prop where
  nameNotBlank : isBlankText name = false
  versionNotBlank : isBlankText version = false
  notEmpty : records.isEmpty = false
  nameClean : hasCommentDelimiter name = false
  descriptionsClean : ∀ entry ∈ records.entries, hasCommentDelimiter entry.2.description = false
  typeNames : ∀ record ∈ records.keys, Elm.isTypeName (Elm.displayName record) = true
  typeNamesDistinct : (records.keys.map Elm.displayName).Nodup
  typed : ∀ entry ∈ records.entries, entry.2.Typed records.contains

/-- **The schema of declarations** exists exactly when they keep the rules, and then holds them
with their marks. -/
theorem build_eq_ok_iff {name version : String} {records : OrderedMap String RecordDecl}
    {schema : Schema} :
    build name version records = .ok schema ↔
      Accepts name version records ∧
        schema = ⟨name, version, records.mapEntries (RecordDecl.marked records.contains)⟩ := by
  have marking :
      records.mapEntries (fun record decl =>
        { decl with
          selfReferencing := decl.selfReferencing ||
            (records.entries.map (newMark records.contains)).contains (record, true) }) =
      records.mapEntries (RecordDecl.marked records.contains) := by
    refine OrderedMap.ext (List.map_congr_left fun entry member => ?_)
    exact congrArg (fun mark : Bool => (entry.1,
      { entry.2 with selfReferencing := entry.2.selfReferencing || mark }))
      (contains_newMark records member)
  rw [build, seq_eq_ok_iff, seq_eq_ok_iff, seq_eq_ok_iff, seq_eq_ok_iff, seq_eq_ok_iff,
    seq_eq_ok_iff, bind_eq_ok_iff, forM_eq_ok_iff, checkTypeNames_eq_ok_iff]
  simp only [require_eq_ok_iff, mapM_eq_ok_iff_eq_map markEntry_eq_ok_iff, pure_eq_ok_iff,
    Bool.not_eq_true']
  constructor
  · rintro ⟨named, versioned, some, clean, described, ⟨valid, distinct, _⟩, _, ⟨typed, rfl⟩, rfl⟩
    exact ⟨⟨named, versioned, some, clean, described, valid, distinct, typed⟩, by rw [marking]⟩
  · rintro ⟨rules, rfl⟩
    exact ⟨rules.nameNotBlank, rules.versionNotBlank, rules.notEmpty, rules.nameClean,
      rules.descriptionsClean, ⟨rules.typeNames, rules.typeNamesDistinct, fun _ _ => nofun⟩, _,
      ⟨rules.typed, rfl⟩, by rw [marking]⟩

end Schema

end ElmCodec
