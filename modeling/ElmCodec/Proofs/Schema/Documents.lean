/-
**Schemas that are read or made.**

The declarations of a document, and those that are made by hand, come without marks: which records
need a type of their own is found out when the schema is built.

* `Schema.ofYaml_eq_ok` — a schema that is read is built from the declarations of its document.
* `Draft.declarations_unmarked` — no declaration of a document has a mark.
* `Schema.exists_field_of_draft` — **a field of a document** is a field of its schema.
* `Schema.Fresh` — a schema that was read from a document or built from declarations without marks.
* `Schema.Fresh.selfReferencing_iff` — **which records of it have a type of their own**.
-/

import ElmCodec.Schema.Document
import ElmCodec.Proofs.Codec.Usage
import ElmCodec.Proofs.Codec.Resolved

namespace ElmCodec

/-- No declaration has a mark. -/
def Unmarked (declarations : OrderedMap String RecordDecl) : Prop :=
  ∀ entry ∈ declarations.entries, entry.2.selfReferencing = false

/-- The declarations of a document have no marks. -/
theorem Draft.declarations_unmarked {draft : Draft} {declarations : OrderedMap String RecordDecl}
    (declared : draft.declarations = .ok declarations) : Unmarked declarations := by
  obtain ⟨entries, each, rfl⟩ := map_eq_ok_iff.mp declared
  intro entry member
  obtain ⟨record, _, read⟩ :=
    exists_item_of_mem (mapM_eq_ok_iff.mp each) (OrderedMap.mem_of_mem_ofList member)
  obtain ⟨fields, _, same⟩ := bind_eq_ok_iff.mp read
  rw [← pure_eq_ok_iff.mp same]

/-- Entries that are read one by one, each under its own key, are found under their keys. -/
theorem exists_entry_of_mapM {α β : Type} {read : String × α → Except SchemaError (String × β)}
    (keyed : ∀ entry result, read entry = .ok result → result.1 = entry.1)
    {map : OrderedMap String α} {results : List (String × β)}
    (each : map.entries.mapM read = .ok results) {key : String} {value : α}
    (found : map.get? key = some value) :
    ∃ image, (OrderedMap.ofList results).get? key = some image ∧
      read (key, value) = .ok (key, image) := by
  rw [mapM_eq_ok_iff] at each
  have keys : results.map (·.1) = map.keys := by
    rw [OrderedMap.keys]
    generalize map.entries = entries at each
    induction each with
    | nil => rfl
    | cons first _ ih => rw [List.map_cons, List.map_cons, ih, keyed _ _ first]
  have distinct : (results.map (·.1)).Nodup := keys ▸ map.keys_nodup
  obtain ⟨⟨other, image⟩, member, reads⟩ :=
    exists_result_of_mem each (OrderedMap.mem_entries_iff.mpr found)
  obtain rfl : other = key := keyed _ _ reads
  exact ⟨image, OrderedMap.mem_entries_iff.mp
    ((OrderedMap.entries_ofList_perm distinct).mem_iff.mpr member), reads⟩

/-- **A field of a document** is declared under the same names, with the presence that it says. -/
theorem Draft.exists_field_of_declarations {draft : Draft}
    {declarations : OrderedMap String RecordDecl} (declared : draft.declarations = .ok declarations)
    {record key : String} {draftRecord : DraftRecord} {draftField : DraftField}
    (recordFound : draft.records.get? record = some draftRecord)
    (fieldFound : draftRecord.fields.get? key = some draftField) :
    ∃ decl field, declarations.get? record = some decl ∧ decl.fields.get? key = some field ∧
      presenceOf key draftField = .ok field.presence := by
  have fieldKeyed : ∀ entry result, fieldDecl entry = .ok result → result.1 = entry.1 := by
    intro entry result read
    obtain ⟨presence, _, same⟩ := bind_eq_ok_iff.mp read
    rw [← pure_eq_ok_iff.mp same]
  have recordKeyed : ∀ entry result, recordDecl entry = .ok result → result.1 = entry.1 := by
    intro entry result read
    obtain ⟨fields, _, same⟩ := bind_eq_ok_iff.mp read
    rw [← pure_eq_ok_iff.mp same]
  obtain ⟨entries, each, rfl⟩ := map_eq_ok_iff.mp declared
  obtain ⟨decl, found, read⟩ := exists_entry_of_mapM recordKeyed each recordFound
  obtain ⟨fields, fieldsRead, same⟩ := bind_eq_ok_iff.mp read
  obtain ⟨field, inside, fieldRead⟩ := exists_entry_of_mapM fieldKeyed fieldsRead fieldFound
  obtain ⟨presence, present, made⟩ := bind_eq_ok_iff.mp fieldRead
  obtain ⟨_, rfl⟩ := Prod.mk.inj (pure_eq_ok_iff.mp made)
  obtain ⟨_, rfl⟩ := Prod.mk.inj (pure_eq_ok_iff.mp same)
  exact ⟨_, _, found, inside, present⟩

/-- A record occurs in a type exactly when its own type is inside. -/
theorem FieldType.mentions_iff {name : String} {type : FieldType} :
    type.mentions name = true ↔ Inside (.record name) type := by
  induction type with
  | bool | int | string | float | timestamp | value | enumeration _ => exact ⟨nofun, nofun⟩
  | record other =>
    rw [mentions, beq_iff_eq]
    refine ⟨fun same => same ▸ .here, fun inside => ?_⟩
    cases inside
    rfl
  | list element ih =>
    rw [mentions, ih]
    refine ⟨.list, fun inside => ?_⟩
    cases inside with
    | list inside => exact inside
  | dict element ih =>
    rw [mentions, ih]
    refine ⟨.dict, fun inside => ?_⟩
    cases inside with
    | dict inside => exact inside

namespace Schema

/-- A schema that is read is built from the declarations of its document. -/
theorem ofYaml_eq_ok {source : String} {schema : Schema} (read : ofYaml source = .ok schema) :
    ∃ draft version declarations, Draft.parse? source = some draft ∧
      draft.versionText = .ok version ∧ draft.declarations = .ok declarations ∧
        build draft.name version declarations = .ok schema := by
  unfold ofYaml at read
  split at read
  · cases read
  · next draft parsed =>
    obtain ⟨version, versioned, later⟩ := bind_eq_ok_iff.mp read
    obtain ⟨declarations, declared, built⟩ := bind_eq_ok_iff.mp later
    exact ⟨draft, version, declarations, parsed, versioned, declared, built⟩

/-- **A field of a document** is a field of the schema that is read, with the presence that it
says. -/
theorem exists_field_of_draft {source : String} {schema : Schema} {draft : Draft}
    (read : ofYaml source = .ok schema) (parsed : Draft.parse? source = some draft)
    {record key : String} {draftRecord : DraftRecord} {draftField : DraftField}
    (recordFound : draft.records.get? record = some draftRecord)
    (fieldFound : draftRecord.fields.get? key = some draftField) :
    ∃ decl field, schema.records.get? record = some decl ∧ decl.fields.get? key = some field ∧
      Draft.presenceOf key draftField = .ok field.presence := by
  obtain ⟨other, version, declarations, otherParsed, _, declared, built⟩ := ofYaml_eq_ok read
  obtain rfl := Option.some.inj (parsed.symm.trans otherParsed)
  obtain ⟨decl, field, found, inside, present⟩ :=
    Draft.exists_field_of_declarations declared recordFound fieldFound
  refine ⟨decl.marked declarations.contains record, field, ?_, inside, present⟩
  rw [get?_of_build built, found, Option.map_some]

/-- A schema that was read from a document or built from declarations without marks. -/
def Fresh (schema : Schema) : Prop :=
  (∃ source, ofYaml source = .ok schema) ∨
    ∃ name version declarations, Unmarked declarations ∧
      build name version declarations = .ok schema

namespace Fresh

variable {schema : Schema} (fresh : schema.Fresh)
include fresh

theorem exists_build :
    ∃ name version declarations, Unmarked declarations ∧
      build name version declarations = .ok schema := by
  rcases fresh with ⟨source, read⟩ | built
  · obtain ⟨draft, version, declarations, _, _, declared, built⟩ := ofYaml_eq_ok read
    exact ⟨draft.name, version, declarations, Draft.declarations_unmarked declared, built⟩
  · exact built

/-- **A record has a type of its own** exactly when it asks for one or when one of its fields has a
type with the record inside. -/
theorem selfReferencing_iff {key : String} {decl : RecordDecl}
    (found : schema.records.get? key = some decl) :
    decl.selfReferencing = true ↔ decl.breaksRecursion = true ∨
      ∃ field ∈ decl.fields.values, ∃ type, schema.parseType field.typeText = .ok type ∧
        FieldType.Inside (.record key) type := by
  obtain ⟨name, version, declarations, unmarked, built⟩ := fresh.exists_build
  rw [get?_of_build built, Option.map_eq_some_iff] at found
  obtain ⟨declared, member, rfl⟩ := found
  have mark : declared.selfReferencing = false :=
    unmarked _ (OrderedMap.mem_entries_iff.mpr member)
  unfold parseType
  rw [declares_of_build built]
  show declared.needsOwnType declarations.contains key = true ↔ _
  rw [RecordDecl.needsOwnType, mark, Bool.false_or, Bool.or_eq_true, RecordDecl.mentions_iff]
  simp only [FieldType.mentions_iff]
  rfl

end Fresh

end Schema

end ElmCodec
