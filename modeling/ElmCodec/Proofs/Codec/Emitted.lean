/-
**Which records a module holds.**

* `Schema.emit_eq_ok_iff` — when a schema gives a module, and what its text is made of.
* `Schema.emit_eq_error_iff` — what it is refused for, under any valid name and at any time.
* `Schema.mem_sortedRecords_iff` — **the records of the module** are those of the schema, each once.
* `Schema.exists_sortedRecord` — every record of the schema is there.
-/

import ElmCodec.Codec.Module
import ElmCodec.Proofs.Codec.Resolved

namespace ElmCodec.Schema

/-! ### The text of a module -/

theorem emit_eq_ok_iff {schema : Schema} {modules : ImportModules} {moduleName : String}
    {time : Int} {text : String} :
    schema.emit modules moduleName time = .ok text ↔
      Elm.isModuleName moduleName = true ∧ schema.records.isEmpty = false ∧
        ∃ records bodies, schema.sortedRecords = .ok records ∧
          records.mapM (Record.render schema) = .ok bodies ∧
            schema.assemble modules moduleName time records bodies = text := by
  rw [emit, seq_eq_ok_iff, seq_eq_ok_iff, bind_eq_ok_iff, require_eq_ok_iff, require_eq_ok_iff,
    Bool.not_eq_true']
  simp only [bind_eq_ok_iff, pure_eq_ok_iff]
  refine and_congr_right fun _ => and_congr_right fun _ => exists_congr fun records => ?_
  constructor
  · rintro ⟨sorted, bodies, rendered, same⟩
    exact ⟨bodies, sorted, rendered, same⟩
  · rintro ⟨bodies, sorted, rendered, same⟩
    exact ⟨sorted, bodies, rendered, same⟩

/-- **What a schema is refused for** has nothing to do with the time, and with the name of the
module only if that is not valid. -/
theorem emit_eq_error_iff {schema : Schema} {modules : ImportModules} {moduleName : String}
    (named : Elm.isModuleName moduleName = true) {time : Int} {error : SchemaError} :
    schema.emit modules moduleName time = .error error ↔
      (schema.records.isEmpty = true ∧ error = .noRecords) ∨
        (schema.records.isEmpty = false ∧ (schema.sortedRecords = .error error ∨
          ∃ records, schema.sortedRecords = .ok records ∧
            records.mapM (Record.render schema) = .error error)) := by
  rw [emit, named, seq_eq_error_iff, seq_eq_error_iff, require_eq_error_iff, require_eq_error_iff,
    require_eq_ok_iff, require_eq_ok_iff, Bool.not_eq_true', Bool.not_eq_false']
  simp only [bind_eq_error_iff, pure, Except.pure, reduceCtorEq, and_false, exists_false, or_false,
    Bool.true_eq_false, false_and, false_or, true_and]

/-! ### The records of a module -/

theorem typeNames_of_resolved {schema : Schema} {entries : List (String × RecordDecl)}
    {resolved : List Record}
    (each : List.Forall₂ (fun entry record => Record.resolve schema entry.1 entry.2 = .ok record)
      entries resolved) :
    resolved.map (·.typeName) = (entries.map (·.1)).map Elm.displayName := by
  induction each with
  | nil => rfl
  | cons first _ ih => rw [List.map_cons, ih, Record.typeName_eq first]; rfl

/-- Fields of a record are fields of its declaration, with their types read. -/
theorem exists_field_iff {schema : Schema} {entries : List (String × FieldDecl)}
    {fields : List Field}
    (each : List.Forall₂ (fun entry field => Field.resolve schema entry.1 entry.2 = .ok field)
      entries fields) (property : Presence → FieldType → Prop) :
    (∃ field ∈ fields, property field.presence field.type) ↔
      ∃ field ∈ entries.map (·.2), ∃ type, schema.parseType field.typeText = .ok type ∧
        property field.presence type := by
  induction each with
  | nil => exact ⟨nofun, nofun⟩
  | @cons entry field entries fields first _ ih =>
    obtain ⟨_, type, parsed, rfl⟩ := Field.resolve_eq_ok_iff.mp first
    rw [List.map_cons, List.exists_mem_cons_iff, List.exists_mem_cons_iff, ih]
    refine or_congr_left ⟨fun holds => ⟨type, parsed, holds⟩, ?_⟩
    rintro ⟨_, parsed', holds⟩
    cases Except.ok.inj (parsed.symm.trans parsed')
    exact holds

section Sorted

variable {name version : String} {declarations : OrderedMap String RecordDecl} {schema : Schema}
variable {records : List Record}
variable (built : Schema.build name version declarations = .ok schema)
include built

/-- No two records of a schema share a type name. -/
theorem typeNames_nodup_of_resolved {resolved : List Record}
    (each : List.Forall₂ (fun entry record => Record.resolve schema entry.1 entry.2 = .ok record)
      schema.records.entries resolved) : (resolved.map (·.typeName)).Nodup := by
  obtain ⟨rules, _⟩ := build_eq_ok_iff.mp built
  rw [typeNames_of_resolved each, show schema.records.entries.map (·.1) = declarations.keys from
    keys_of_build built]
  exact rules.typeNamesDistinct

variable (sorted : schema.sortedRecords = .ok records)
include sorted

/-- The records of a module are those of the schema in another order. -/
theorem sortedRecords_perm :
    ∃ resolved, List.Forall₂
        (fun entry record => Record.resolve schema entry.1 entry.2 = .ok record)
        schema.records.entries resolved ∧ records.Perm resolved := by
  obtain ⟨resolved, each, rfl⟩ := map_eq_ok_iff.mp sorted
  rw [mapM_eq_ok_iff] at each
  have distinct := typeNames_nodup_of_resolved built each
  -- A place ends with the type name, so places differ as type names do.
  have places : ((resolved.map fun record => (record.sortKey, record)).map (·.1)).Nodup := by
    rw [List.map_map, List.Nodup, List.pairwise_map]
    refine (List.pairwise_map.mp distinct).imp fun {first second} unlike same => unlike ?_
    exact (List.cons.inj (List.cons.inj same).2).1
  have perm := (OrderedMap.entries_ofList_perm places).map (·.2)
  rw [List.map_map, show ((fun entry : List String × Record => entry.2) ∘
    fun record : Record => (record.sortKey, record)) = id from rfl, List.map_id] at perm
  exact ⟨resolved, each, perm⟩

/-- A record of a module is known by its type name. -/
theorem eq_of_typeName {first second : Record} (firstMember : first ∈ records)
    (secondMember : second ∈ records) (same : first.typeName = second.typeName) :
    first = second := by
  obtain ⟨resolved, each, perm⟩ := sortedRecords_perm built sorted
  have distinct := typeNames_nodup_of_resolved built each
  rw [← (perm.map (·.typeName)).nodup_iff] at distinct
  exact List.inj_on_of_nodup_map distinct firstMember secondMember same

/-- Every record of the schema is in the module. -/
theorem exists_sortedRecord {name : String} {decl : RecordDecl}
    (found : schema.records.get? name = some decl) :
    ∃ record ∈ records, Record.resolve schema name decl = .ok record := by
  obtain ⟨resolved, each, perm⟩ := sortedRecords_perm built sorted
  obtain ⟨record, member, resolves⟩ :=
    exists_result_of_mem each (OrderedMap.mem_entries_iff.mpr found)
  exact ⟨record, perm.mem_iff.mpr member, resolves⟩

/-- **The records of a module** are those of the schema. -/
theorem mem_sortedRecords_iff {record : Record} :
    record ∈ records ↔ ∃ name decl, schema.records.get? name = some decl ∧
      Record.resolve schema name decl = .ok record := by
  constructor
  · intro member
    obtain ⟨resolved, each, perm⟩ := sortedRecords_perm built sorted
    obtain ⟨entry, inside, resolves⟩ := exists_item_of_mem each (perm.mem_iff.mp member)
    exact ⟨entry.1, entry.2, OrderedMap.mem_entries_iff.mp inside, resolves⟩
  · rintro ⟨name, decl, found, resolves⟩
    obtain ⟨other, member, otherResolves⟩ := exists_sortedRecord built sorted found
    cases Except.ok.inj (resolves.symm.trans otherResolves)
    exact member

theorem typeName_of_mem_sortedRecords {record : Record} (member : record ∈ records) :
    Elm.isTypeName record.typeName = true := by
  obtain ⟨name, decl, found, resolves⟩ := (mem_sortedRecords_iff built sorted).mp member
  rw [Record.typeName_eq resolves]
  refine wellNamed_of_build built name ?_
  rw [declares, OrderedMap.contains, found]
  rfl

end Sorted

end ElmCodec.Schema
