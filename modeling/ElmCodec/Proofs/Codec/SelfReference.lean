/-
**Records with a type of their own are treated alike everywhere.**

A record with a type of its own has a constructor. The constructor is in the definition of the type
and in the list of what the module exposes, the encoder takes it off and the decoder puts it on; and
whatever decodes the record does so lazily.

* `Reading.Expr.uses` — the names in an expression, and which of them wait for `D.lazy`.
* `FieldType.decoder_uses` — **the decoder of a type** with a record inside refers to the decoder of
  the record, lazily exactly when the record has a type of its own.
* `Record.Consistent` — a record is treated alike in a module.
* `Schema.selfReference_consistent` — **all records of a schema are**, and which of them have types
  of their own.
-/

import ElmCodec.Proofs.Codec.Coherence
import ElmCodec.Proofs.Codec.Definitions
import ElmCodec.Proofs.Codec.Pieces
import ElmCodec.Proofs.Schema.Documents

namespace ElmCodec

open Reading

/-! ### References in decoders -/

/-- The names in an expression, each with whether it stands in an argument of `D.lazy`, given
whether the whole expression does. -/
def Reading.Expr.uses (delayed : Bool) : Expr → List (String × Bool)
  | .name text => [(text, delayed)]
  | .literal _ | .given => []
  | .apply function argument =>
    function.uses delayed ++ argument.uses (delayed || function == .name "D.lazy")
  | .ignoring body => body.uses delayed

theorem Reading.Expr.uses_apply_name {function : String} (eager : function ≠ "D.lazy")
    (argument : Expr) (delayed : Bool) :
    (Expr.apply (.name function) argument).uses delayed =
      (function, delayed) :: argument.uses delayed := by
  have different : (Expr.name function == Expr.name "D.lazy") = false := by
    rw [beq_eq_false_iff_ne]
    exact fun same => eager (Expr.name.inj same)
  rw [uses, uses, different, Bool.or_false, List.singleton_append]

/-- The decoder of a record has no name of another module. -/
theorem Elm.decoderName_ne_qualified {typeName : String} (typed : Elm.isTypeName typeName = true)
    (other : String) (qualified : '.' ∈ other.toList) : decoderName typeName ≠ other := by
  rintro rfl
  exact Elm.not_mem_valueName rfl (Elm.isValueName_decoderName typed) qualified

/-- **The decoder of a type** with a record inside refers to the decoder of the record, lazily
exactly when the record has a type of its own. -/
theorem FieldType.decoder_uses {schema : Schema} (typeNames : schema.WellNamed) {key : String}
    {decl : RecordDecl} (found : schema.records.get? key = some decl) {type : FieldType}
    (inside : Inside (.record key) type) :
    ∃ text e, type.decoder schema = .ok text ∧ Term text e ∧ ∀ delayed,
      (decoderName (Elm.displayName key), delayed) ∈ e.uses false ↔
        delayed = decl.selfReferencing := by
  have declared : schema.declares key = true := by
    rw [Schema.declares, OrderedMap.contains, found]
    rfl
  have typed := typeNames key declared
  have differs := Elm.decoderName_ne_qualified typed
  induction inside with
  | here =>
    refine ⟨_, _, by rw [decoder, found], term_recordReference decl typed, fun delayed => ?_⟩
    unfold recordReference
    cases decl.selfReferencing with
    | false => simp [Expr.uses]
    | true => simp [Expr.uses, differs "D.lazy" (by decide)]
  | list inside ih =>
    obtain ⟨text, e, decoded, term, uses⟩ := ih
    have chain := (argument_name "D.list" (by decide)).chain.apply term.argument
    refine ⟨_, _, by rw [decoder, decoded]; rfl, chain.term, fun delayed => ?_⟩
    rw [Expr.uses_apply_name (by decide), List.mem_cons, ← uses delayed]
    exact or_iff_right fun same => differs "D.list" (by decide) (congrArg Prod.fst same)
  | dict inside ih =>
    obtain ⟨text, e, decoded, term, uses⟩ := ih
    have chain := (argument_name "D.dict" (by decide)).chain.apply term.argument
    refine ⟨_, _, by rw [decoder, decoded]; rfl, chain.term, fun delayed => ?_⟩
    rw [Expr.uses_apply_name (by decide), List.mem_cons, ← uses delayed]
    exact or_iff_right fun same => differs "D.dict" (by decide) (congrArg Prod.fst same)

/-! ### One record in a module -/

/-- **A record is treated alike in a module** that lists `entries` and holds the record with the
given decoder: as a record with a type of its own if it is one, and as an alias otherwise. -/
structure Record.Consistent (schema : Schema) (entries : List String) (record : Record)
    (decoder : String) (ownType : Prop) : Prop where
  /-- Either `type R = R …` or `type alias R = …`. -/
  definition : ∃ type, readDefinition record.typeDefinition = some type ∧
    type.name = record.typeName ∧ (type.constructor = some record.typeName ↔ ownType) ∧
      (type.constructor = none ↔ ¬ownType)
  /-- Either `R(..)` or `R`. -/
  exported : (record.typeName ++ "(..)" ∈ entries ↔ ownType) ∧
    (record.typeName ∈ entries ↔ ¬ownType)
  /-- Either `encodeR (R data) =` or `encodeR data =`. -/
  encoder : ∃ encoding, readEncoding record.encoder = some encoding ∧
    encoding.name = record.encoderName ∧
      (encoding.pattern = "(" ++ record.typeName ++ " data)" ↔ ownType) ∧
        (encoding.pattern = "data" ↔ ¬ownType)
  /-- Either the record literal after `R` or the literal alone. -/
  decoder : ∃ constructor, readMade decoder = some constructor ∧
    (constructor = some record.typeName ↔ ownType) ∧ (constructor = none ↔ ¬ownType)
  /-- Either `D.lazy (\_ -> rDecoder)` or `rDecoder`, in every field of every record. -/
  references : ∀ other decl, schema.records.get? other = some decl →
    ∀ field ∈ decl.fields.values, ∀ type, schema.parseType field.typeText = .ok type →
      FieldType.Inside (.record record.name) type →
        ∃ text e, type.decoder schema = .ok text ∧ readExpression text = some e ∧
          ∀ delayed, (record.decoderName, delayed) ∈ e.uses false ↔ (delayed = true ↔ ownType)

namespace Record

theorem exposedType_eq_iff (record : Record) :
    (record.typeName ++ "(..)" = record.exposedType ↔ record.selfReferencing = true) ∧
      (record.typeName = record.exposedType ↔ ¬record.selfReferencing = true) := by
  have longer : record.typeName ≠ record.typeName ++ "(..)" := by
    intro same
    have length := congrArg String.length same
    rw [String.length_append, show "(..)".length = 4 from rfl] at length
    omega
  unfold exposedType
  cases record.selfReferencing with
  | false => simp
  | true => simpa using longer

theorem constructor?_eq_iff (record : Record) :
    (record.constructor? = some record.typeName ↔ record.selfReferencing = true) ∧
      (record.constructor? = none ↔ ¬record.selfReferencing = true) := by
  unfold constructor?
  cases record.selfReferencing <;> simp

theorem pattern_eq_iff (record : Record) :
    (record.pattern = "(" ++ record.typeName ++ " data)" ↔ record.selfReferencing = true) ∧
      (record.pattern = "data" ↔ ¬record.selfReferencing = true) := by
  have differ : "(" ++ record.typeName ++ " data)" ≠ "data" := by
    intro same
    have first := congrArg (fun text : String => text.toList.head?) same
    rw [String.append_assoc, String.toList_append] at first
    cases first
  unfold pattern
  cases record.selfReferencing with
  | false => simpa using differ.symm
  | true => simpa using differ

end Record

namespace Schema

section Emitted

variable {name version : String} {declarations : OrderedMap String RecordDecl} {schema : Schema}
variable {records : List Record} {record : Record}
variable (built : Schema.build name version declarations = .ok schema)
variable (sorted : schema.sortedRecords = .ok records) (member : record ∈ records)
include built sorted member

/-- The one entry of a module that starts with the type name of a record. -/
theorem mem_exports_iff {entry : String}
    (starts : (splitName entry).1 = record.typeName) :
    entry ∈ records.flatMap Record.exports ↔ entry = record.exposedType := by
  have valid : ∀ record ∈ records, Elm.isTypeName record.typeName = true :=
    fun _ inside => typeName_of_mem_sortedRecords built sorted inside
  refine ⟨fun exposed => ?_, fun same => ?_⟩
  · obtain ⟨other, inside, exported⟩ := List.mem_flatMap.mp exposed
    obtain ⟨same, sameName⟩ :=
      Record.eq_exposedType_of_splitName (valid other inside) (valid record member) exported starts
    rw [same, eq_of_typeName built sorted inside member sameName]
  · exact List.mem_flatMap.mpr ⟨record, member, same ▸ List.mem_cons_self⟩

theorem exported_iff :
    (record.typeName ++ "(..)" ∈ records.flatMap Record.exports ↔ record.selfReferencing = true) ∧
      (record.typeName ∈ records.flatMap Record.exports ↔ ¬record.selfReferencing = true) := by
  have letters : ∀ c ∈ record.typeName.toList, Elm.isNameChar c = true := fun c inside =>
    Elm.isNameChar_of_mem_typeName (typeName_of_mem_sortedRecords built sorted member) inside
  have marked := splitName_append record.typeName "(..)" letters (by rintro c ⟨⟩; rfl)
  rw [mem_exports_iff built sorted member (congrArg Prod.fst marked),
    mem_exports_iff built sorted member (splitName_self letters)]
  exact record.exposedType_eq_iff

/-- A record of a module is treated alike there. -/
theorem consistent {fragments : List String} {key : String} {decl : RecordDecl}
    (found : schema.records.get? key = some decl)
    (resolved : Record.resolve schema key decl = .ok record) :
    record.Consistent schema (records.flatMap Record.exports)
      (Record.unlines (record.linesWith fragments)) (decl.selfReferencing = true) := by
  have typeNames := wellNamed_of_build built
  have typed := typeName_of_mem_sortedRecords built sorted member
  have inScope := Record.fields_inScope resolved
  have clean := Record.description_clean built found resolved
  rw [← Record.selfReferencing_eq resolved]
  refine ⟨⟨_, Record.readDefinition_typeDefinition typeNames typed inScope clean, rfl,
      record.constructor?_eq_iff⟩, exported_iff built sorted member,
    ⟨_, Record.readEncoding_encoder typeNames typed inScope, rfl, record.pattern_eq_iff⟩,
    ⟨_, Record.readMade_unlines typed inScope fragments, record.constructor?_eq_iff⟩, ?_⟩
  intro other otherDecl _ field _ type _ inside
  rw [Record.name_eq resolved] at inside
  obtain ⟨text, e, decoded, term, uses⟩ := FieldType.decoder_uses typeNames found inside
  refine ⟨text, e, decoded, term.chain.whole.readExpression_eq, fun delayed => ?_⟩
  rw [Record.decoderName, Record.typeName_eq resolved, uses delayed,
    Record.selfReferencing_eq resolved, Bool.eq_iff_iff]

end Emitted

/-- A word is a part of the words put together. -/
theorem isInfix_intercalate {separator word : String} {words : List String}
    (member : word ∈ words) :
    word.toList <:+: (String.intercalate separator words).toList := by
  induction words with
  | nil => cases member
  | cons first rest ih =>
    cases rest with
    | nil =>
      rw [List.mem_singleton.mp member, String.intercalate_singleton]
    | cons second rest =>
      rw [String.intercalate_cons_cons, String.toList_append, String.toList_append]
      rcases List.mem_cons.mp member with rfl | later
      · exact ((List.prefix_append _ _).trans (List.prefix_append _ _)).isInfix
      · exact (ih later).trans (List.suffix_append _ _).isInfix

/-- **Self-reference is treated alike everywhere.** A record has a type of its own exactly when it
asks for one or one of its fields has a type with the record inside; and a module holds every record
with its three pieces, all of which treat it as what it is, as do the exposed names and the decoders
of all fields. -/
theorem selfReference_consistent {schema : Schema} (fresh : schema.Fresh) :
    (∀ key decl, schema.records.get? key = some decl →
      (decl.selfReferencing = true ↔ decl.breaksRecursion = true ∨
        ∃ field ∈ decl.fields.values, ∃ type, schema.parseType field.typeText = .ok type ∧
          FieldType.Inside (.record key) type)) ∧
    ∀ modules moduleName time text, schema.emit modules moduleName time = .ok text →
      ∃ entries, exportEntries text = some entries ∧
        ∀ key decl, schema.records.get? key = some decl →
          ∃ record decoder, Record.resolve schema key decl = .ok record ∧
            record.decoder schema = .ok decoder ∧
              (String.intercalate "\n\n" [record.typeDefinition, record.encoder, decoder]).toList
                <:+: text.toList ∧
                record.Consistent schema entries decoder (decl.selfReferencing = true) := by
  refine ⟨fun key decl found => fresh.selfReferencing_iff found, ?_⟩
  intro modules moduleName time text emitted
  obtain ⟨name, version, declarations, _, built⟩ := fresh.exists_build
  obtain ⟨records, bodies, sorted, rendered, rfl, validModule, inhabited⟩ :=
    sortedRecords_of_emit built emitted
  refine ⟨_, exportEntries_assemble validModule inhabited
    fun record member => typeName_of_mem_sortedRecords built sorted member, ?_⟩
  intro key decl found
  obtain ⟨record, member, resolved⟩ := exists_sortedRecord built sorted found
  obtain ⟨body, inside, render⟩ := exists_result_of_mem (mapM_eq_ok_iff.mp rendered) member
  obtain ⟨decoder, decoded, rfl⟩ := map_eq_ok_iff.mp render
  obtain ⟨lines, linesDecoded, same⟩ := map_eq_ok_iff.mp decoded
  obtain ⟨fragments, _, rfl⟩ := map_eq_ok_iff.mp linesDecoded
  refine ⟨record, decoder, resolved, decoded, ?_, ?_⟩
  · rw [assemble, String.toList_append]
    exact (isInfix_intercalate inside).trans (List.suffix_append _ _).isInfix
  · rw [← same]
    exact consistent built sorted member found resolved

/-- A folder, which holds folders, has a type of its own. -/
theorem folder_selfReference :
    ∃ schema text entries, build "files" "1" folderDeclarations = .ok schema ∧
      schema.emit {} "Files" 0 = .ok text ∧ exportEntries text = some entries ∧
        "Folder(..)" ∈ entries := by
  have built : build "files" "1" folderDeclarations =
    .ok ⟨"files", "1", folderDeclarations.mapEntries fun _ decl =>
      { decl with selfReferencing := true }⟩ := rfl
  obtain ⟨text, decl, emitted, found, folders, parsed⟩ : ∃ text decl,
      Schema.emit ⟨"files", "1", folderDeclarations.mapEntries fun _ decl =>
        { decl with selfReferencing := true }⟩ {} "Files" 0 = .ok text ∧
      OrderedMap.get? (folderDeclarations.mapEntries fun _ decl =>
        { decl with selfReferencing := true }) "Folder" = some decl ∧
      foldersField ∈ decl.fields.values ∧
      Schema.parseType ⟨"files", "1", folderDeclarations.mapEntries fun _ decl =>
        { decl with selfReferencing := true }⟩ foldersField.typeText =
        .ok (.list (.dict (.record "Folder"))) :=
    ⟨_, _, rfl, rfl, List.mem_singleton.mpr rfl, rfl⟩
  have unmarked : Unmarked folderDeclarations := by
    intro entry member
    cases List.mem_singleton.mp member
    rfl
  obtain ⟨marks, modules⟩ := selfReference_consistent (.inr ⟨_, _, _, unmarked, built⟩)
  obtain ⟨entries, read, records⟩ := modules _ _ _ _ emitted
  obtain ⟨record, decoder, resolved, _, _, consistent⟩ := records _ _ found
  have marked := (marks _ _ found).mpr (.inr ⟨_, folders, _, parsed, .list (.dict .here)⟩)
  have exposed := consistent.exported.1.mpr marked
  rw [Record.typeName_eq resolved] at exposed
  exact ⟨_, text, entries, built, emitted, read, exposed⟩

end Schema

end ElmCodec
