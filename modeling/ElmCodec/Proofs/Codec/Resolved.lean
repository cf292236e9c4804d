/-
**What resolved fields and records hold.**

* `Field.resolve_eq_ok_iff`, `Record.resolve_eq_ok_iff` — when declarations resolve, and to what.
* `Record.keys_ascending`, `Record.names_nodup` — **the fields of a record** stand in the order of
  their keys, and no two of them share a name.
* `Schema.wellNamed_of_build` — the records of a schema have type names.
-/

import ElmCodec.Codec.Record
import ElmCodec.Proofs.Elm.Names
import ElmCodec.Proofs.Schema.Accepted

namespace ElmCodec

/-! ### Fields -/

theorem Field.resolve_eq_ok_iff {schema : Schema} {key : String} {decl : FieldDecl}
    {field : Field} :
    Field.resolve schema key decl = .ok field ↔
      Elm.isValueName (Elm.fieldName key) = true ∧ ∃ type,
        schema.parseType decl.typeText = .ok type ∧
          field = ⟨key, Elm.fieldName key, type, decl.presence⟩ := by
  unfold Field.resolve
  by_cases valid : Elm.isValueName (Elm.fieldName key) = true
  · simp only [valid, if_true, map_eq_ok_iff, true_and]
    exact exists_congr fun type => and_congr_right fun _ => eq_comm
  · simp [valid]

/-- A field whose name and type may stand in a module of a schema. -/
structure Field.InScope (schema : Schema) (field : Field) : Prop where
  name : Elm.isValueName field.name = true
  type : field.type.InScope schema.declares

/-- **A field that resolves is in scope.** -/
theorem Field.inScope_of_resolve {schema : Schema} {key : String} {decl : FieldDecl}
    {field : Field} (resolved : Field.resolve schema key decl = .ok field) :
    field.InScope schema := by
  obtain ⟨valid, type, parsed, rfl⟩ := Field.resolve_eq_ok_iff.mp resolved
  exact ⟨valid, FieldType.inScope_of_parse parsed⟩

/-- **A field in scope has a decoder.** -/
theorem Field.decoder_isOk {schema : Schema} {field : Field} (inScope : field.InScope schema) :
    ∃ text, field.decoder schema = .ok text := by
  obtain ⟨inner, decoded⟩ := FieldType.decoder_isOk inScope.type
  unfold Field.decoder
  split
  · exact ⟨_, rfl⟩
  · rw [decoded]
    exact ⟨_, rfl⟩

/-! ### Records -/

namespace Record

variable {schema : Schema} {name : String} {decl : RecordDecl} {record : Record}

theorem find_name_eq_none_iff {earlier : List Field} {field : Field} :
    earlier.find? (·.name == field.name) = none ↔ field.name ∉ earlier.map (·.name) := by
  rw [List.find?_eq_none, List.mem_map]
  constructor
  · rintro unlike ⟨other, member, same⟩
    exact unlike other member (beq_iff_eq.mpr same)
  · intro fresh other member same
    exact fresh ⟨other, member, beq_iff_eq.mp same⟩

theorem resolveFields_eq_ok_iff {earlier fields : List Field}
    {entries : List (String × FieldDecl)} :
    resolveFields schema name earlier entries = .ok fields ↔
      List.Forall₂ (fun entry field => Field.resolve schema entry.1 entry.2 = .ok field)
          entries fields ∧
        (fields.map (·.name)).Nodup ∧ ∀ field ∈ fields, field.name ∉ earlier.map (·.name) := by
  induction entries generalizing earlier fields with
  | nil =>
    rw [List.forall₂_nil_left_iff]
    constructor
    · intro same
      cases same
      exact ⟨rfl, .nil, nofun⟩
    · rintro ⟨rfl, _, _⟩
      rfl
  | cons entry rest ih =>
    obtain ⟨key, decl⟩ := entry
    rw [resolveFields, bind_eq_ok_iff, List.forall₂_cons_left_iff]
    constructor
    · rintro ⟨field, first, after⟩
      split at after
      · cases after
      · next clear =>
        obtain ⟨others, later, same⟩ := bind_eq_ok_iff.mp after
        obtain ⟨resolved, distinct, fresh⟩ := ih.mp later
        cases pure_eq_ok_iff.mp same
        refine ⟨⟨field, others, first, resolved, rfl⟩, ?_, ?_⟩
        · rw [List.map_cons, List.nodup_cons]
          refine ⟨fun taken => ?_, distinct⟩
          obtain ⟨other, member, equal⟩ := List.mem_map.mp taken
          exact fresh other member (by rw [equal, List.map_cons]; exact List.mem_cons_self)
        · refine List.forall_mem_cons.mpr ⟨find_name_eq_none_iff.mp clear, ?_⟩
          intro other member taken
          exact fresh other member (by rw [List.map_cons]; exact List.mem_cons_of_mem _ taken)
    · rintro ⟨⟨field, others, first, resolved, rfl⟩, distinct, fresh⟩
      rw [List.map_cons, List.nodup_cons] at distinct
      rw [List.forall_mem_cons] at fresh
      refine ⟨field, first, ?_⟩
      have later : resolveFields schema name (field :: earlier) rest = .ok others := by
        refine ih.mpr ⟨resolved, distinct.2, fun other member taken => ?_⟩
        rw [List.map_cons, List.mem_cons] at taken
        rcases taken with same | taken
        · exact distinct.1 (same ▸ List.mem_map_of_mem member)
        · exact fresh.2 other member taken
      rw [find_name_eq_none_iff.mpr fresh.1]
      exact bind_eq_ok_iff.mpr ⟨others, later, rfl⟩

/-- **When the declaration of a record resolves**, and to what. -/
theorem resolve_eq_ok_iff :
    Record.resolve schema name decl = .ok record ↔
      ∃ fields, List.Forall₂ (fun entry field => Field.resolve schema entry.1 entry.2 = .ok field)
          decl.fields.entries fields ∧ (fields.map (·.name)).Nodup ∧
        record = ⟨name, Elm.displayName name, Text.trim decl.description, decl.selfReferencing,
          fields⟩ := by
  rw [Record.resolve, map_eq_ok_iff]
  constructor
  · rintro ⟨fields, read, rfl⟩
    obtain ⟨resolved, distinct, _⟩ := resolveFields_eq_ok_iff.mp read
    exact ⟨fields, resolved, distinct, rfl⟩
  · rintro ⟨fields, resolved, distinct, rfl⟩
    exact ⟨fields, resolveFields_eq_ok_iff.mpr ⟨resolved, distinct, fun _ _ => nofun⟩, rfl⟩

section Resolved

variable (resolved : Record.resolve schema name decl = .ok record)
include resolved

theorem fields_resolved :
    List.Forall₂ (fun entry field => Field.resolve schema entry.1 entry.2 = .ok field)
      decl.fields.entries record.fields := by
  obtain ⟨fields, each, _, rfl⟩ := resolve_eq_ok_iff.mp resolved
  exact each

theorem keys_eq : record.fields.map (·.key) = decl.fields.keys := by
  have each := fields_resolved resolved
  unfold OrderedMap.keys
  generalize decl.fields.entries = entries, record.fields = fields at each ⊢
  induction each with
  | nil => rfl
  | cons first _ ih =>
    obtain ⟨_, type, _, rfl⟩ := Field.resolve_eq_ok_iff.mp first
    rw [List.map_cons, List.map_cons, ih]

/-- **The fields of a record stand in the order of their keys.** -/
theorem keys_ascending : (record.fields.map (·.key)).Pairwise (· < ·) := by
  rw [keys_eq resolved]
  exact decl.fields.keys_ascending

/-- **No two fields of a record share a name.** -/
theorem names_nodup : (record.fields.map (·.name)).Nodup := by
  obtain ⟨fields, _, distinct, rfl⟩ := resolve_eq_ok_iff.mp resolved
  exact distinct

theorem name_eq : record.name = name := by
  obtain ⟨fields, _, _, rfl⟩ := resolve_eq_ok_iff.mp resolved
  rfl

theorem typeName_eq : record.typeName = Elm.displayName name := by
  obtain ⟨fields, _, _, rfl⟩ := resolve_eq_ok_iff.mp resolved
  rfl

theorem description_eq : record.description = Text.trim decl.description := by
  obtain ⟨fields, _, _, rfl⟩ := resolve_eq_ok_iff.mp resolved
  rfl

theorem selfReferencing_eq : record.selfReferencing = decl.selfReferencing := by
  obtain ⟨fields, _, _, rfl⟩ := resolve_eq_ok_iff.mp resolved
  rfl

/-- **The fields of a record are in scope.** -/
theorem fields_inScope : ∀ field ∈ record.fields, field.InScope schema := by
  intro field member
  obtain ⟨entry, _, fieldResolved⟩ := exists_item_of_mem (fields_resolved resolved) member
  exact Field.inScope_of_resolve fieldResolved

end Resolved

end Record

/-! ### Records of a schema -/

/-- Every record of a schema has a type name. -/
def Schema.WellNamed (schema : Schema) : Prop :=
  ∀ record, schema.declares record = true → Elm.isTypeName (Elm.displayName record) = true

namespace Schema

variable {name version : String} {declarations : OrderedMap String RecordDecl} {schema : Schema}
variable (built : Schema.build name version declarations = .ok schema)
include built

theorem get?_of_build (record : String) :
    schema.records.get? record =
      (declarations.get? record).map (RecordDecl.marked declarations.contains record) := by
  obtain ⟨_, rfl⟩ := build_eq_ok_iff.mp built
  exact OrderedMap.get?_mapEntries _ _ _

theorem keys_of_build : schema.records.keys = declarations.keys := by
  obtain ⟨_, rfl⟩ := build_eq_ok_iff.mp built
  exact OrderedMap.keys_mapEntries _ _

theorem declares_of_build : schema.declares = declarations.contains := by
  funext record
  rw [declares, OrderedMap.contains, OrderedMap.contains, get?_of_build built, Option.isSome_map]

/-- **The records of a schema have type names.** -/
theorem wellNamed_of_build : schema.WellNamed := by
  intro record declared
  obtain ⟨rules, _⟩ := build_eq_ok_iff.mp built
  rw [declares_of_build built] at declared
  exact rules.typeNames record (OrderedMap.contains_iff_mem_keys.mp declared)

end Schema

end ElmCodec
