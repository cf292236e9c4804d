/-
**The imports of a module are those that it needs.**

Which lines a module has is said here of the schema alone: of the types of its fields, whatever
their presence, of the optional fields and of the sizes of its records. The code goes another way,
by notes that are taken while types, fields and records are visited and put together at the end.

* `Schema.HasField` — a schema has a field of a type and a presence.
* `Schema.importLines` — the lines that a schema needs.
* `Schema.Raises` — what raises a flag in the notes, said of the schema.
* `Schema.raised_iff`, `Schema.needsExtendedArity_iff` — **what the notes of a module say** about
  its schema.
* `Schema.imports_exact` — **the import lines of a module** are those that its schema needs.
-/

import ElmCodec.Proofs.Codec.Emitted
import ElmCodec.Proofs.Codec.Usage

namespace ElmCodec

open Classical in
/-- The given line if a condition holds, and no line otherwise. -/
noncomputable def lineIf (condition : Prop) (line : String) : List String :=
  if condition then [line] else []

theorem lineIf_eq {condition : Prop} {flag : Bool} (same : flag = true ↔ condition)
    (line : String) : lineIf condition line = if flag then [line] else [] := by
  unfold lineIf
  by_cases holds : condition
  · rw [if_pos holds, if_pos (same.mpr holds)]
  · rw [if_neg holds, if_neg fun raised => holds (same.mp raised)]

namespace Schema

/-! ### What a schema needs -/

/-- A record of a schema has a field of a type and a presence. -/
def HasField (schema : Schema) (type : FieldType) (presence : Presence) : Prop :=
  ∃ record decl, schema.records.get? record = some decl ∧
    ∃ field ∈ decl.fields.values,
      schema.parseType field.typeText = .ok type ∧ field.presence = presence

/-- The type of a field is of a kind, or has a type of that kind inside at any depth. -/
def UsesType (schema : Schema) (kind : FieldType → Prop) : Prop :=
  ∃ type presence, schema.HasField type presence ∧
    ∃ inner, FieldType.Inside inner type ∧ kind inner

/-- A record has more fields than the standard module can decode at once. -/
def IsWide (schema : Schema) : Prop :=
  ∃ record decl, schema.records.get? record = some decl ∧ 8 < decl.fields.size

/-- The line for the module of decoding helpers. -/
noncomputable def decodeLine (schema : Schema) (modules : ImportModules) : String :=
  "import " ++ modules.decodeExtra ++ String.join (lineIf schema.IsWide " as D") ++
    String.join (lineIf (∃ type default, schema.HasField type (.optional default))
      (" exposing (" ++ String.intercalate ", "
        (lineIf (∃ type, schema.HasField type (.optional none)) "opField" ++
          lineIf (∃ type default, schema.HasField type (.optional (some default)))
            "opFieldWithDefault") ++ ")"))

/-- **The import lines that a schema needs**, in their order. -/
noncomputable def importLines (schema : Schema) (modules : ImportModules) : List String :=
  lineIf (schema.UsesType fun type => ∃ element, type = .dict element)
    "import Dict exposing (Dict)" ++
  lineIf (schema.IsWide ∨ ∃ type default, schema.HasField type (.optional default))
    (schema.decodeLine modules) ++
  ["import " ++ modules.encodeExtra ++ " exposing (maybeObject)"] ++
  lineIf (schema.UsesType fun type => type = .timestamp)
    ("import " ++ modules.timestamp ++
      " exposing (Timestamp, encodeTimestamp, timestampDecoder)") ++
  lineIf (schema.UsesType fun type => ∃ name, type = .enumeration name)
    ("import " ++ modules.enums ++ " as Enums") ++
  ["import Json.Decode as D", "import Json.Encode as E"]

/-! ### What raises a flag -/

/-- **What a schema has to have for a flag to be raised.** -/
def Raises (schema : Schema) : Usage.Flag → Prop
  | .dict => schema.UsesType fun type => ∃ element, type = .dict element
  | .opField => ∃ type, schema.HasField type (.optional none)
  | .opFieldWithDefault => ∃ type default, schema.HasField type (.optional (some default))
  | .maybeObject => ∃ record decl, schema.records.get? record = some decl
  | .timestamp => schema.UsesType fun type => type = .timestamp
  | .enums => schema.UsesType fun type => ∃ name, type = .enumeration name

end Schema

namespace Usage.Flag

/-- The types that raise a flag, beside those inside them. -/
def OfType : Flag → FieldType → Prop
  | dict, type => ∃ element, type = .dict element
  | timestamp, type => type = .timestamp
  | enums, type => ∃ name, type = .enumeration name
  | opField, _ | opFieldWithDefault, _ | maybeObject, _ => False

/-- The presences that raise a flag. -/
def OfPresence : Flag → Presence → Prop
  | opField, presence => presence = .optional none
  | opFieldWithDefault, presence => ∃ default, presence = .optional (some default)
  | dict, _ | timestamp, _ | enums, _ | maybeObject, _ => False

variable (flag : Flag)

theorem raised_ownUse_iff (type : FieldType) :
    flag.raised type.ownUse = true ↔ flag.OfType type := by
  cases flag <;> cases type <;> simp [raised, OfType, FieldType.ownUse]

theorem raised_use_iff (presence : Presence) :
    flag.raised presence.use = true ↔ flag.OfPresence presence := by
  rcases presence with _ | _ | _ | _ | _ <;> cases flag <;> simp [raised, OfPresence, Presence.use]

theorem raised_record_iff (record : Record) :
    flag.raised record.ownUse = true ↔ flag = .maybeObject := by
  cases flag <;> simp [raised, Record.ownUse]

end Usage.Flag

namespace Schema

/-! ### What the notes say -/

section Notes

variable {name version : String} {declarations : OrderedMap String RecordDecl} {schema : Schema}
variable {records : List Record}
variable (built : Schema.build name version declarations = .ok schema)
variable (sorted : schema.sortedRecords = .ok records)
include built sorted

/-- The fields of the records of a module are those of the schema. -/
theorem exists_hasField_iff (property : Presence → FieldType → Prop) :
    (∃ record ∈ records, ∃ field ∈ record.fields, property field.presence field.type) ↔
      ∃ type presence, schema.HasField type presence ∧ property presence type := by
  constructor
  · rintro ⟨record, member, holds⟩
    obtain ⟨key, decl, found, resolved⟩ := (mem_sortedRecords_iff built sorted).mp member
    obtain ⟨field, inside, type, parsed, holds⟩ :=
      (exists_field_iff (Record.fields_resolved resolved) property).mp holds
    exact ⟨type, field.presence, ⟨key, decl, found, field, inside, parsed, rfl⟩, holds⟩
  · rintro ⟨type, _, ⟨key, decl, found, field, inside, parsed, rfl⟩, holds⟩
    obtain ⟨record, member, resolved⟩ := exists_sortedRecord built sorted found
    exact ⟨record, member, (exists_field_iff (Record.fields_resolved resolved) property).mpr
      ⟨field, inside, type, parsed, holds⟩⟩

/-- **A flag is raised in the notes of a module** exactly when its schema asks for it. -/
theorem raised_iff (flag : Usage.Flag) :
    flag.raised (usageOf records) = true ↔ schema.Raises flag := by
  have fields := exists_hasField_iff built sorted fun presence type =>
    flag.OfPresence presence ∨ ∃ inner, FieldType.Inside inner type ∧ flag.OfType inner
  rw [flag_usageOf_iff (Usage.isFlag_raised flag)]
  simp only [Usage.Flag.raised_ownUse_iff, Usage.Flag.raised_use_iff, Usage.Flag.raised_record_iff]
  cases flag with
  | maybeObject =>
    simp only [true_or, and_true, Raises]
    constructor
    · rintro ⟨record, member⟩
      obtain ⟨key, decl, found, _⟩ := (mem_sortedRecords_iff built sorted).mp member
      exact ⟨key, decl, found⟩
    · rintro ⟨key, decl, found⟩
      obtain ⟨record, member, _⟩ := exists_sortedRecord built sorted found
      exact ⟨record, member⟩
  | dict | timestamp | enums | opField | opFieldWithDefault =>
    simpa [Usage.Flag.OfPresence, Usage.Flag.OfType, Raises, UsesType] using fields

/-- **A decoder combines more decoders than the standard module can** exactly when a record has that
many fields. -/
theorem needsExtendedArity_iff : (usageOf records).needsExtendedArity = true ↔ schema.IsWide := by
  have byPresence : ∀ presence : Presence, presence.use.needsExtendedArity = false := by
    rintro (_ | _ | _ | _ | _) <;> rfl
  have byType : ∀ type : FieldType, type.ownUse.needsExtendedArity = false := by
    rintro (_ | _) <;> rfl
  have byRecord : ∀ record : Record,
      record.ownUse.needsExtendedArity = true ↔ 8 < record.arity := by
    intro record
    simp [Usage.needsExtendedArity, Record.ownUse, Usage.builtinArity]
  have arity : ∀ {key decl record}, Record.resolve schema key decl = .ok record →
      record.arity = decl.fields.size := by
    intro key decl record resolved
    have lengths := (Record.fields_resolved resolved).length_eq
    exact lengths.symm
  rw [flag_usageOf_iff Usage.isFlag_needsExtendedArity]
  simp only [byPresence, byType, byRecord, Bool.false_eq_true, and_false, exists_false, or_false]
  constructor
  · rintro ⟨record, member, wide⟩
    obtain ⟨key, decl, found, resolved⟩ := (mem_sortedRecords_iff built sorted).mp member
    exact ⟨key, decl, found, arity resolved ▸ wide⟩
  · rintro ⟨key, decl, found, wide⟩
    obtain ⟨record, member, resolved⟩ := exists_sortedRecord built sorted found
    exact ⟨record, member, (arity resolved).symm ▸ wide⟩

/-- The module of decoding helpers exposes something exactly when a field is optional. -/
theorem decodeExposing_ne_nil_iff : (!(usageOf records).decodeExposing.isEmpty) = true ↔
    ∃ type default, schema.HasField type (.optional default) := by
  have exposes : (!(usageOf records).decodeExposing.isEmpty) = true ↔
      (usageOf records).opField = true ∨ (usageOf records).opFieldWithDefault = true := by
    unfold Usage.decodeExposing
    cases (usageOf records).opField <;> cases (usageOf records).opFieldWithDefault <;> simp
  have plain := raised_iff built sorted .opField
  have withDefault := raised_iff built sorted .opFieldWithDefault
  refine exposes.trans ((or_congr plain withDefault).trans ⟨?_, ?_⟩)
  · rintro (⟨type, has⟩ | ⟨type, default, has⟩)
    · exact ⟨type, none, has⟩
    · exact ⟨type, some default, has⟩
  · rintro ⟨type, _ | default, has⟩
    · exact .inl ⟨type, has⟩
    · exact .inr ⟨type, default, has⟩

/-- The line for the module of decoding helpers is the one that the schema needs. -/
theorem render_decodeImport (modules : ImportModules) :
    ({ moduleName := modules.decodeExtra
       qualifier := if (usageOf records).needsExtendedArity then some "D" else none
       exposes := (usageOf records).decodeExposing } : Import).render =
      schema.decodeLine modules := by
  have plain : (usageOf records).opField = true ↔ ∃ type, schema.HasField type (.optional none) :=
    raised_iff built sorted .opField
  have withDefault : (usageOf records).opFieldWithDefault = true ↔
      ∃ type default, schema.HasField type (.optional (some default)) :=
    raised_iff built sorted .opFieldWithDefault
  unfold decodeLine Import.render
  rw [lineIf_eq (needsExtendedArity_iff built sorted),
    lineIf_eq (decodeExposing_ne_nil_iff built sorted), lineIf_eq plain, lineIf_eq withDefault]
  unfold Usage.decodeExposing
  cases (usageOf records).needsExtendedArity <;> cases (usageOf records).opField <;>
    cases (usageOf records).opFieldWithDefault <;> simp

/-- The lines for what the records of a module use are those that the schema needs. -/
theorem render_importsFor (inhabited : schema.records.isEmpty = false) (modules : ImportModules) :
    (importsFor modules (usageOf records)).map Import.render = schema.importLines modules := by
  have extras : ((usageOf records).needsExtendedArity ||
        !(usageOf records).decodeExposing.isEmpty) = true ↔
      schema.IsWide ∨ ∃ type default, schema.HasField type (.optional default) := by
    rw [Bool.or_eq_true, needsExtendedArity_iff built sorted,
      decodeExposing_ne_nil_iff built sorted]
  have usesDict : (usageOf records).dict = true ↔
      schema.UsesType fun type => ∃ element, type = .dict element := raised_iff built sorted .dict
  have usesTimestamp : (usageOf records).timestamp = true ↔
      schema.UsesType fun type => type = .timestamp := raised_iff built sorted .timestamp
  have usesEnums : (usageOf records).enums = true ↔
      schema.UsesType fun type => ∃ name, type = .enumeration name := raised_iff built sorted .enums
  -- A module has a record, and every record uses the helper for objects.
  have object : (usageOf records).maybeObject = true := by
    refine (raised_iff built sorted .maybeObject).mpr ?_
    obtain ⟨entry, member⟩ := List.exists_mem_of_ne_nil schema.records.entries
      fun none => by simp [OrderedMap.isEmpty, none] at inhabited
    exact ⟨entry.1, entry.2, OrderedMap.mem_entries_iff.mp member⟩
  unfold importsFor importLines
  rw [lineIf_eq usesDict, lineIf_eq extras, lineIf_eq usesTimestamp, lineIf_eq usesEnums, object,
    ← render_decodeImport built sorted]
  have map_ite : ∀ (flag : Bool) (line : Import),
      (if flag then [line] else []).map Import.render = if flag then [line.render] else [] := by
    rintro (_ | _) _ <;> rfl
  have dict : ({ moduleName := "Dict", exposes := ["Dict"] } : Import).render =
      "import Dict exposing (Dict)" := rfl
  have encode :
      ({ moduleName := modules.encodeExtra, exposes := ["maybeObject"] } : Import).render =
        "import " ++ modules.encodeExtra ++ " exposing (maybeObject)" := by
    simp [Import.render, String.append_assoc]
  have timestamp :
      ({ moduleName := modules.timestamp
         exposes := ["Timestamp", "encodeTimestamp", "timestampDecoder"] } : Import).render =
        "import " ++ modules.timestamp ++
          " exposing (Timestamp, encodeTimestamp, timestampDecoder)" := by
    simp [Import.render, String.append_assoc]
  have enums : ({ moduleName := modules.enums, qualifier := some "Enums" } : Import).render =
      "import " ++ modules.enums ++ " as Enums" := by
    simp [Import.render, String.append_assoc]
  have decoder : ({ moduleName := "Json.Decode", qualifier := some "D" } : Import).render =
      "import Json.Decode as D" := rfl
  have encoder : ({ moduleName := "Json.Encode", qualifier := some "E" } : Import).render =
      "import Json.Encode as E" := rfl
  simp only [List.map_append, List.map_cons, List.map_nil, map_ite, if_true, dict, encode,
    timestamp, enums, decoder, encoder]

end Notes

/-! ### The import lines of a module -/

/-- **Imports are exactly those that a schema needs.** When a schema that can be built gives a
module, the text between the header and the records is the lines that the schema needs: the line of
each import under its own condition on the types, presences and sizes, in one order, once. -/
theorem imports_exact {name version : String} {declarations : OrderedMap String RecordDecl}
    {schema : Schema} {modules : ImportModules} {moduleName : String} {time : Int} {text : String}
    (built : Schema.build name version declarations = .ok schema)
    (emitted : schema.emit modules moduleName time = .ok text) :
    ∃ records bodies, schema.sortedRecords = .ok records ∧
      records.mapM (Record.render schema) = .ok bodies ∧
      text = Record.unlines (declarationLines moduleName records) ++ "\n" ++ schema.header time ++
        "\n" ++ String.intercalate "\n" (schema.importLines modules) ++ "\n\n\n" ++
        String.intercalate "\n\n" bodies := by
  obtain ⟨_, inhabited, records, bodies, sorted, rendered, rfl⟩ := emit_eq_ok_iff.mp emitted
  refine ⟨records, bodies, sorted, rendered, ?_⟩
  rw [assemble, renderImports, render_importsFor built sorted inhabited modules]

/-- A schema whose one record has a field that is never present and one that is optional. -/
def shelf : OrderedMap String RecordDecl :=
  .ofList [("Shelf",
    { description := ""
      fields := .ofList [("seen", ⟨"{[timestamp]}", .never⟩), ("title", ⟨"string", .optional none⟩)]
      breaksRecursion := false })]

/-- A field that is never present still asks for the imports of what is inside its type. -/
theorem shelf_imports_exact :
    ∃ schema text records bodies, Schema.build "shelf" "1" shelf = .ok schema ∧
      schema.UsesType (fun type => type = .timestamp) ∧
      schema.emit {} "Shelf" 0 = .ok text ∧ schema.sortedRecords = .ok records ∧
      records.mapM (Record.render schema) = .ok bodies ∧
      text = Record.unlines (declarationLines "Shelf" records) ++ "\n" ++ schema.header 0 ++
        "\n" ++ String.intercalate "\n" (schema.importLines {}) ++ "\n\n\n" ++
        String.intercalate "\n\n" bodies := by
  obtain ⟨schema, built, seen, emits⟩ : ∃ schema, Schema.build "shelf" "1" shelf = .ok schema ∧
      schema.HasField (.dict (.list .timestamp)) .never ∧
      (schema.emit {} "Shelf" 0).isOk = true :=
    ⟨_, rfl, ⟨"Shelf", _, rfl, ⟨"{[timestamp]}", .never⟩, by decide, rfl, rfl⟩, by decide +kernel⟩
  cases emitted : schema.emit {} "Shelf" 0 with
  | error error => rw [emitted] at emits; cases emits
  | ok text =>
    obtain ⟨records, bodies, sorted, rendered, same⟩ := imports_exact built emitted
    exact ⟨schema, text, records, bodies, built, ⟨_, _, seen, _, .dict (.list .here), rfl⟩, emitted,
      sorted, rendered, same⟩

end Schema

end ElmCodec
