/-
**Why a schema gives no module.**

The types of all fields are read when a schema is built. They are read again when its records are
resolved and looked up once more when decoders are written, but by then nothing can be wrong with
them: what is left are names.

* `FieldFault` — what can be wrong with the names of the fields of a record.
* `Record.resolve_eq_error`, `Record.not_fieldFault_of_resolve` — a record does not resolve exactly
  when there is such a fault.
* `Record.render_isOk` — a record that resolves has its three pieces.
* `Schema.emit_eq_error` — the refusals of a module.
* `Schema.emit_refused_iff` — **a schema gives no module** exactly when the module has no valid name
  or a field has no name of its own.
-/

import ElmCodec.Proofs.Codec.Emitted

namespace ElmCodec

/-! ### The names of fields -/

/-- What can be wrong with the names of the fields of a record, and the refusal for it. -/
inductive FieldFault (record : String) (keys : List String) : SchemaError → Prop where
  | notAName {key : String} (member : key ∈ keys)
      (invalid : Elm.isValueName (Elm.fieldName key) = false) :
      FieldFault record keys (.notAFieldName key)
  | sameName {previous key : String} (previousMember : previous ∈ keys) (member : key ∈ keys)
      (different : previous ≠ key) (same : Elm.fieldName previous = Elm.fieldName key) :
      FieldFault record keys (.sameFieldName record previous key (Elm.fieldName key))

namespace FieldFault

variable {record : String} {keys others : List String} {error : SchemaError}

theorem of_subset (fault : FieldFault record keys error) (subset : keys ⊆ others) :
    FieldFault record others error := by
  cases fault with
  | notAName member invalid => exact .notAName (subset member) invalid
  | sameName previousMember member different same =>
    exact .sameName (subset previousMember) (subset member) different same

/-- Some fault is there exactly when a key gives no name or two keys give the same. -/
theorem exists_iff :
    (∃ error, FieldFault record keys error) ↔
      (∃ key ∈ keys, Elm.isValueName (Elm.fieldName key) = false) ∨
        ∃ first ∈ keys, ∃ second ∈ keys, first ≠ second ∧
          Elm.fieldName first = Elm.fieldName second := by
  constructor
  · rintro ⟨_, fault⟩
    cases fault with
    | notAName member invalid => exact .inl ⟨_, member, invalid⟩
    | sameName previousMember member different same =>
      exact .inr ⟨_, previousMember, _, member, different, same⟩
  · rintro (⟨key, member, invalid⟩ | ⟨first, firstMember, second, secondMember, different, same⟩)
    · exact ⟨_, .notAName member invalid⟩
    · exact ⟨_, .sameName firstMember secondMember different same⟩

/-- A fault in a name is one of shape. -/
theorem kind_eq (fault : FieldFault record keys error) :
    error.kind = .malformed ∧ error ≠ .noRecords := by
  cases fault <;> simp [SchemaError.kind]

end FieldFault

section Types

variable {schema : Schema}

/-- A field whose type can be read is refused for its name only. -/
theorem Field.resolve_eq_error {key : String} {decl : FieldDecl} {error : SchemaError}
    (typed : ∃ type, schema.parseType decl.typeText = .ok type)
    (refused : Field.resolve schema key decl = .error error) :
    Elm.isValueName (Elm.fieldName key) = false ∧ error = .notAFieldName key := by
  obtain ⟨type, parsed⟩ := typed
  unfold Field.resolve at refused
  by_cases valid : Elm.isValueName (Elm.fieldName key) = true
  · simp [valid, parsed, Except.map] at refused
  · simp only [valid, Bool.false_eq_true, if_false, Except.error.injEq] at refused
    exact ⟨by simpa using valid, refused.symm⟩

namespace Record

variable {name : String}

/-- Fields whose types can be read are refused for their names only. -/
theorem resolveFields_eq_error {earlier : List Field} {entries : List (String × FieldDecl)}
    {error : SchemaError} (named : ∀ field ∈ earlier, field.name = Elm.fieldName field.key)
    (typed : ∀ entry ∈ entries, ∃ type, schema.parseType entry.2.typeText = .ok type)
    (distinct : (earlier.map (·.key) ++ entries.map (·.1)).Nodup)
    (refused : resolveFields schema name earlier entries = .error error) :
    FieldFault name (earlier.map (·.key) ++ entries.map (·.1)) error := by
  induction entries generalizing earlier with
  | nil => cases refused
  | cons entry rest ih =>
    obtain ⟨key, decl⟩ := entry
    rw [List.forall_mem_cons] at typed
    rw [resolveFields, bind_eq_error_iff] at refused
    rcases refused with failed | ⟨field, resolved, later⟩
    · obtain ⟨invalid, rfl⟩ := Field.resolve_eq_error typed.1 failed
      exact .notAName (by simp) invalid
    · obtain ⟨_, type, _, rfl⟩ := Field.resolve_eq_ok_iff.mp resolved
      have fresh : key ∉ earlier.map (·.key) := by
        rw [List.map_cons, List.nodup_middle, List.nodup_cons] at distinct
        exact fun taken => distinct.1 (List.mem_append_left _ taken)
      split at later
      · next previous found =>
        cases later
        have member : previous ∈ earlier := List.mem_of_find?_eq_some found
        have same : previous.name = Elm.fieldName key := by simpa using List.find?_some found
        refine .sameName (List.mem_append_left _ (List.mem_map_of_mem member)) (by simp) ?_ ?_
        · intro equal
          exact fresh (List.mem_map.mpr ⟨previous, member, equal⟩)
        · rw [← named previous member, same]
      · rcases bind_eq_error_iff.mp later with others | ⟨_, _, impossible⟩
        · refine (ih ?_ typed.2 ?_ others).of_subset ?_
          · exact List.forall_mem_cons.mpr ⟨rfl, named⟩
          · rw [List.map_cons, List.nodup_middle] at distinct
            exact distinct
          · intro other member
            simp only [List.map_cons, List.cons_append, List.mem_cons, List.mem_append] at member ⊢
            tauto
        · cases impossible

variable {decl : RecordDecl} {error : SchemaError}

/-- **A record whose types can be read** is refused for the names of its fields only. -/
theorem resolve_eq_error
    (typed : ∀ field ∈ decl.fields.values, ∃ type, schema.parseType field.typeText = .ok type)
    (refused : Record.resolve schema name decl = .error error) :
    FieldFault name decl.fields.keys error := by
  rw [Record.resolve, map_eq_error_iff] at refused
  have each : ∀ entry ∈ decl.fields.entries, ∃ type,
      schema.parseType entry.2.typeText = .ok type :=
    fun entry member => typed entry.2 (List.mem_map_of_mem member)
  have none : ∀ field ∈ ([] : List Field), field.name = Elm.fieldName field.key := by simp
  exact resolveFields_eq_error none each decl.fields.keys_nodup refused

/-- A record that resolves has no fault in the names of its fields. -/
theorem not_fieldFault_of_resolve {record : Record}
    (resolved : Record.resolve schema name decl = .ok record) :
    ¬FieldFault name decl.fields.keys error := by
  have named : ∀ key ∈ decl.fields.keys, ∃ field ∈ record.fields,
      field.key = key ∧ field.name = Elm.fieldName key := by
    intro key member
    obtain ⟨entry, inside, rfl⟩ := List.mem_map.mp member
    obtain ⟨field, fieldMember, fieldResolved⟩ :=
      exists_result_of_mem (fields_resolved resolved) inside
    obtain ⟨_, type, _, rfl⟩ := Field.resolve_eq_ok_iff.mp fieldResolved
    exact ⟨_, fieldMember, rfl, rfl⟩
  rintro (⟨member, invalid⟩ | ⟨previousMember, member, different, same⟩)
  · obtain ⟨field, inside, _, sameName⟩ := named _ member
    have valid := (fields_inScope resolved field inside).name
    rw [sameName, invalid] at valid
    cases valid
  · obtain ⟨first, firstInside, rfl, firstName⟩ := named _ previousMember
    obtain ⟨second, secondInside, rfl, secondName⟩ := named _ member
    have equal : first = second :=
      List.inj_on_of_nodup_map (names_nodup resolved) firstInside secondInside
        (by rw [firstName, secondName, same])
    exact different (congrArg Field.key equal)

/-- **A record that resolves has its pieces**: no decoder refers to a record that is not there. -/
theorem render_isOk {record : Record} (inScope : ∀ field ∈ record.fields, field.InScope schema) :
    ∃ text, record.render schema = .ok text := by
  obtain ⟨decoders, decoded⟩ : ∃ decoders,
      List.Forall₂ (fun field text => Field.decoder schema field = .ok text)
        record.fields decoders :=
    exists_results fun field member => Field.decoder_isOk (inScope field member)
  rw [render, decoder, decoderLines, mapM_eq_ok_iff.mpr decoded]
  exact ⟨_, rfl⟩

end Record

end Types

/-! ### Modules -/

namespace Schema

variable {name version : String} {declarations : OrderedMap String RecordDecl} {schema : Schema}
variable (built : Schema.build name version declarations = .ok schema)
include built

/-- **The types of a schema can be read again.** -/
theorem typed_of_build {record : String} {decl : RecordDecl}
    (found : schema.records.get? record = some decl) :
    ∀ field ∈ decl.fields.values, ∃ type, schema.parseType field.typeText = .ok type := by
  obtain ⟨rules, _⟩ := build_eq_ok_iff.mp built
  rw [get?_of_build built, Option.map_eq_some_iff] at found
  obtain ⟨declared, member, rfl⟩ := found
  rw [← OrderedMap.mem_entries_iff] at member
  unfold parseType
  rw [declares_of_build built]
  exact rules.typed _ member

theorem isEmpty_of_build : schema.records.isEmpty = false := by
  obtain ⟨rules, rfl⟩ := build_eq_ok_iff.mp built
  simpa [OrderedMap.isEmpty, OrderedMap.mapEntries] using rules.notEmpty

variable {modules : ImportModules} {moduleName : String} {time : Int}

/-- **The refusals of a module** are about its name or about the names of fields. -/
theorem emit_eq_error {error : SchemaError}
    (refused : schema.emit modules moduleName time = .error error) :
    (Elm.isModuleName moduleName = false ∧ error = .notAModuleName moduleName) ∨
      (Elm.isModuleName moduleName = true ∧ ∃ record decl,
        schema.records.get? record = some decl ∧ FieldFault record decl.fields.keys error) := by
  rw [emit, bind_eq_error_iff, require_eq_error_iff] at refused
  rcases refused with unnamed | ⟨_, named, later⟩
  · exact .inl unnamed
  · refine .inr ⟨require_eq_ok_iff.mp named, ?_⟩
    rw [bind_eq_error_iff, require_eq_error_iff, isEmpty_of_build built] at later
    rcases later with ⟨impossible, _⟩ | ⟨_, _, later⟩
    · cases impossible
    · rcases bind_eq_error_iff.mp later with unsorted | ⟨records, sorted, later⟩
      · rw [sortedRecords, map_eq_error_iff] at unsorted
        obtain ⟨⟨record, decl⟩, member, failed⟩ := mapM_eq_error unsorted
        have found := OrderedMap.mem_entries_iff.mp member
        exact ⟨record, decl, found, Record.resolve_eq_error (typed_of_build built found) failed⟩
      · rcases bind_eq_error_iff.mp later with unrendered | ⟨_, _, impossible⟩
        · obtain ⟨record, member, failed⟩ := mapM_eq_error unrendered
          obtain ⟨_, _, _, resolved⟩ := (mem_sortedRecords_iff built sorted).mp member
          obtain ⟨text, rendered⟩ := Record.render_isOk (Record.fields_inScope resolved)
          rw [rendered] at failed
          cases failed
        · cases impossible

/-- A schema that gives a module has no fault in the names of its fields. -/
theorem not_fieldFault_of_emit {text : String}
    (emitted : schema.emit modules moduleName time = .ok text) {record : String}
    {decl : RecordDecl} (found : schema.records.get? record = some decl) {error : SchemaError} :
    ¬FieldFault record decl.fields.keys error := by
  obtain ⟨_, _, records, _, sorted, _, _⟩ := emit_eq_ok_iff.mp emitted
  obtain ⟨_, _, resolved⟩ := exists_sortedRecord built sorted found
  exact Record.not_fieldFault_of_resolve resolved

/-- A schema gives a module exactly when the module has a valid name and no record has a fault. -/
theorem emit_isOk_iff :
    (∃ text, schema.emit modules moduleName time = .ok text) ↔
      Elm.isModuleName moduleName = true ∧ ∀ record decl, schema.records.get? record = some decl →
        ∀ error, ¬FieldFault record decl.fields.keys error := by
  constructor
  · rintro ⟨text, emitted⟩
    exact ⟨(emit_eq_ok_iff.mp emitted).1, fun record decl found error =>
      not_fieldFault_of_emit built emitted found⟩
  · rintro ⟨named, faultless⟩
    cases outcome : schema.emit modules moduleName time with
    | ok text => exact ⟨text, rfl⟩
    | error error =>
      exfalso
      rcases emit_eq_error built outcome with ⟨unnamed, _⟩ | ⟨_, record, decl, found, fault⟩
      · rw [named] at unnamed
        cases unnamed
      · exact faultless record decl found error fault

/-- **A schema that was built gives no module** exactly when the module has no valid name, a key
gives no name of a field, or two keys of a record give the same. The refusals say so: none is about
the type of a field or about missing records. Neither the time nor the modules of the helpers nor
the choice among valid names matters. -/
theorem emit_refused_iff :
    (∀ modules moduleName time,
      (∃ error, schema.emit modules moduleName time = .error error) ↔
        Elm.isModuleName moduleName = false ∨
          ∃ record decl, schema.records.get? record = some decl ∧
            ((∃ key ∈ decl.fields.keys, Elm.isValueName (Elm.fieldName key) = false) ∨
              ∃ first ∈ decl.fields.keys, ∃ second ∈ decl.fields.keys,
                first ≠ second ∧ Elm.fieldName first = Elm.fieldName second)) ∧
      (∀ modules moduleName time error,
        schema.emit modules moduleName time = .error error →
          error.kind = .malformed ∧ error ≠ .noRecords ∧
            (error = .notAModuleName moduleName ∨ ∃ record decl,
              schema.records.get? record = some decl ∧
                FieldFault record decl.fields.keys error)) ∧
      ∀ modules modules' moduleName moduleName' time time',
        Elm.isModuleName moduleName = true → Elm.isModuleName moduleName' = true →
          ((∃ text, schema.emit modules moduleName time = .ok text) ↔
            ∃ text, schema.emit modules' moduleName' time' = .ok text) := by
  refine ⟨?_, ?_, ?_⟩
  · intro modules moduleName time
    have refused : (∃ error, schema.emit modules moduleName time = .error error) ↔
        ¬∃ text, schema.emit modules moduleName time = .ok text := by
      cases schema.emit modules moduleName time <;> simp
    rw [refused, emit_isOk_iff built]
    simp only [not_and_or, Bool.not_eq_true, not_forall, not_not, exists_prop,
      FieldFault.exists_iff]
  · intro modules moduleName time error refused
    rcases emit_eq_error built refused with ⟨_, rfl⟩ | ⟨_, record, decl, found, fault⟩
    · exact ⟨rfl, by simp, .inl rfl⟩
    · obtain ⟨malformed, other⟩ := fault.kind_eq
      exact ⟨malformed, other, .inr ⟨record, decl, found, fault⟩⟩
  · intro modules modules' moduleName moduleName' time time' valid valid'
    rw [emit_isOk_iff built, emit_isOk_iff built, valid, valid']

end Schema

/-- A schema with two keys that give one name gives no module, and the refusal is about its
shape. -/
theorem Schema.sameKeys_emit_refused :
    ∃ schema error, Schema.build "shapes" "1" (.ofList [("Point",
        { description := ""
          fields := .ofList [("x_y", ⟨"[Point]", .required⟩), ("xY", ⟨"int", .never⟩)]
          breaksRecursion := false })]) = .ok schema ∧
      schema.emit {} "Shapes" 0 = .error error ∧ error.kind = .malformed := by
  obtain ⟨schema, built, decl, found, keys⟩ : ∃ schema, Schema.build "shapes" "1" (.ofList [("Point",
      { description := ""
        fields := .ofList [("x_y", ⟨"[Point]", .required⟩), ("xY", ⟨"int", .never⟩)]
        breaksRecursion := false })]) = .ok schema ∧ ∃ decl,
          schema.records.get? "Point" = some decl ∧ decl.fields.keys = ["xY", "x_y"] :=
    ⟨_, rfl, _, rfl, by decide⟩
  obtain ⟨refusals, kinds, _⟩ := emit_refused_iff built
  have same : Elm.fieldName "xY" = Elm.fieldName "x_y" := by decide +kernel
  obtain ⟨error, refused⟩ := (refusals {} "Shapes" 0).mpr (.inr ⟨"Point", decl, found, .inr
    ⟨"xY", by simp [keys], "x_y", by simp [keys], by decide, same⟩⟩)
  exact ⟨schema, error, built, refused, (kinds {} "Shapes" 0 error refused).1⟩

end ElmCodec
