/-
**The names that a module defines and exposes.**

Every record adds three names: its type `T`, its encoder `encodeT` and its decoder `tDecoder`. A
schema makes sure that the types differ; then the encoders differ among themselves and so do the
decoders, and no type has the name of a value. What is left is an encoder against a decoder.

* `definedNames_disjoint_iff` — when two types share no name.
* `flatMap_definedNames_nodup_iff` — when no name is there twice.
* `exposedNames`, `exposedNames_assemble` — the names, read from the first lines of a module.
* `exposedNames_nodup_iff` — **no name of a module is there twice** exactly when the schema has no
  two types `XDecoder` and `EncodeX`.
-/

import ElmCodec.Proofs.Codec.Emitted
import ElmCodec.Proofs.Reading.Lines

namespace ElmCodec

/-! ### The names of one record -/

/-- The names that the three pieces of the record with a type name define. -/
def definedNames (typeName : String) : List String :=
  [typeName, encoderName typeName, decoderName typeName]

/-- Whether the encoder of a type has the name of the decoder of another one. -/
def Clash (first second : String) : Prop := ∃ x, first = x ++ "Decoder" ∧ second = "Encode" ++ x

theorem not_clash_self (typeName : String) : ¬Clash typeName typeName := by
  rintro ⟨x, ending, start⟩
  have lengths := congrArg String.length (ending.symm.trans start)
  rw [String.length_append, String.length_append] at lengths
  have decoder : "Decoder".length = 7 := rfl
  have encode : "Encode".length = 6 := rfl
  omega

section Valid

variable {first second : String}
variable (firstValid : Elm.isTypeName first = true) (secondValid : Elm.isTypeName second = true)
include firstValid

theorem definedNames_nodup : (definedNames first).Nodup := by
  have encoder := Elm.typeName_ne_valueName firstValid (Elm.isValueName_encoderName firstValid)
  have decoder := Elm.typeName_ne_valueName firstValid (Elm.isValueName_decoderName firstValid)
  have apart : encoderName first ≠ decoderName first := fun same =>
    not_clash_self _ ((Elm.encoderName_eq_decoderName_iff firstValid firstValid).mp same)
  rw [definedNames, List.nodup_cons, List.nodup_cons, List.mem_cons, List.mem_singleton, not_or,
    List.mem_singleton]
  exact ⟨⟨encoder, decoder⟩, apart, List.nodup_singleton _⟩

include secondValid

/-- **Two types share no name** unless an encoder meets a decoder. -/
theorem definedNames_disjoint_iff (unlike : first ≠ second) :
    (definedNames first).Disjoint (definedNames second) ↔
      ¬Clash first second ∧ ¬Clash second first := by
  have forth : encoderName first = decoderName second ↔ Clash first second :=
    Elm.encoderName_eq_decoderName_iff firstValid secondValid
  have back : encoderName second = decoderName first ↔ Clash second first :=
    Elm.encoderName_eq_decoderName_iff secondValid firstValid
  rw [← forth, ← back]
  constructor
  · intro apart
    constructor
    · intro same
      exact apart (a := encoderName first) (by simp [definedNames]) (by simp [definedNames, same])
    · intro same
      exact apart (a := decoderName first) (by simp [definedNames]) (by simp [definedNames, same])
  · rintro ⟨forward, backward⟩ name inFirst inSecond
    rw [definedNames, List.mem_cons, List.mem_cons, List.mem_singleton] at inFirst inSecond
    rcases inFirst with rfl | rfl | rfl
    · rcases inSecond with same | same | same
      · exact unlike same
      · exact Elm.typeName_ne_valueName firstValid (Elm.isValueName_encoderName secondValid) same
      · exact Elm.typeName_ne_valueName firstValid (Elm.isValueName_decoderName secondValid) same
    · rcases inSecond with same | same | same
      · exact Elm.typeName_ne_valueName secondValid (Elm.isValueName_encoderName firstValid)
          same.symm
      · exact unlike (Elm.encoderName_injective same)
      · exact forward same
    · rcases inSecond with same | same | same
      · exact Elm.typeName_ne_valueName secondValid (Elm.isValueName_decoderName firstValid)
          same.symm
      · exact backward same.symm
      · exact unlike (Elm.decoderName_injOn firstValid secondValid same)

end Valid

/-- **No name is defined twice** for distinct types exactly when no two of them clash. -/
theorem flatMap_definedNames_nodup_iff {typeNames : List String}
    (valid : ∀ typeName ∈ typeNames, Elm.isTypeName typeName = true)
    (distinct : typeNames.Nodup) :
    (typeNames.flatMap definedNames).Nodup ↔
      ∀ first ∈ typeNames, ∀ second ∈ typeNames, ¬Clash first second := by
  rw [List.nodup_flatMap]
  constructor
  · rintro ⟨_, apart⟩ first firstMember second secondMember
    -- In pairs of places first; a name never clashes with itself, so it holds of any two names.
    have clear : typeNames.Pairwise fun first second =>
        ¬Clash first second ∧ ¬Clash second first := by
      refine (distinct.and apart).imp_of_mem fun {first second} firstMember secondMember both => ?_
      exact (definedNames_disjoint_iff (valid first firstMember) (valid second secondMember)
        both.1).mp both.2
    exact (clear.forall_of_forall_of_flip
      (fun typeName _ => ⟨not_clash_self typeName, not_clash_self typeName⟩)
      (clear.imp And.symm) firstMember secondMember).1
  · intro clear
    refine ⟨fun typeName member => definedNames_nodup (valid typeName member), ?_⟩
    refine distinct.imp_of_mem fun {first second} firstMember secondMember unlike => ?_
    exact (definedNames_disjoint_iff (valid first firstMember) (valid second secondMember)
      unlike).mpr ⟨clear first firstMember second secondMember,
        clear second secondMember first firstMember⟩

/-! ### The names of a module -/

/-- The names that the first lines of a module expose, each without the mark of its constructors. -/
def exposedNames (text : String) : Option (List String) :=
  match Reading.linesOf text with
  | [] => none
  | _ :: rest =>
    (Reading.items "    " "(" ")" rest).map fun read =>
      read.1.map fun entry => (Reading.splitName entry).1

/-- The entries of the list that the first lines of a module expose. -/
def exportEntries (text : String) : Option (List String) :=
  match Reading.linesOf text with
  | [] => none
  | _ :: rest => (Reading.items "    " "(" ")" rest).map (·.1)

/-- The names that a module exposes start the entries of its list. -/
theorem exposedNames_eq (text : String) :
    exposedNames text =
      (exportEntries text).map (·.map fun entry => (Reading.splitName entry).1) := by
  unfold exposedNames exportEntries
  cases Reading.linesOf text with
  | nil => rfl
  | cons first rest =>
    rw [Option.map_map]
    rfl

/-- A name is all of itself. -/
theorem Reading.splitName_self {name : String}
    (letters : ∀ c ∈ name.toList, Elm.isNameChar c = true) : (splitName name).1 = name := by
  have read := splitName_append name "" letters (by simp)
  rw [String.append_empty] at read
  rw [read]

namespace Record

variable {record : Record}

theorem splitName_exposedType (valid : Elm.isTypeName record.typeName = true) :
    (Reading.splitName record.exposedType).1 = record.typeName := by
  unfold exposedType
  split
  · have read := Reading.splitName_append record.typeName "(..)"
      (fun c member => Elm.isNameChar_of_mem_typeName valid member) (by rintro c ⟨⟩; rfl)
    rw [read]
  · exact Reading.splitName_self fun c member => Elm.isNameChar_of_mem_typeName valid member

/-- The entries of a record in the list of what a module exposes start with its names. -/
theorem splitName_exports (valid : Elm.isTypeName record.typeName = true) :
    record.exports.map (fun entry => (Reading.splitName entry).1) =
      definedNames record.typeName := by
  have encoder : Elm.isValueName record.encoderName = true := Elm.isValueName_encoderName valid
  have decoder : Elm.isValueName record.decoderName = true := Elm.isValueName_decoderName valid
  rw [exports, List.map_cons, List.map_cons, List.map_singleton, splitName_exposedType valid,
    Reading.splitName_self fun c member => Elm.isNameChar_of_mem_valueName encoder member,
    Reading.splitName_self fun c member => Elm.isNameChar_of_mem_valueName decoder member]
  rfl

/-- Of the entries of a record, only that of its type starts with the name of a type. -/
theorem eq_exposedType_of_splitName (valid : Elm.isTypeName record.typeName = true)
    {entry typeName : String} (typed : Elm.isTypeName typeName = true)
    (member : entry ∈ record.exports) (starts : (Reading.splitName entry).1 = typeName) :
    entry = record.exposedType ∧ record.typeName = typeName := by
  have other {name : String} (value : Elm.isValueName name = true) :
      (Reading.splitName name).1 ≠ typeName := by
    rw [Reading.splitName_self fun c member => Elm.isNameChar_of_mem_valueName value member]
    exact (Elm.typeName_ne_valueName typed value).symm
  rw [exports, List.mem_cons, List.mem_cons, List.mem_singleton] at member
  rcases member with rfl | rfl | rfl
  · exact ⟨rfl, (splitName_exposedType valid).symm.trans starts⟩
  · exact absurd starts (other (Elm.isValueName_encoderName valid))
  · exact absurd starts (other (Elm.isValueName_decoderName valid))

theorem oneLine_exports (valid : Elm.isTypeName record.typeName = true) :
    ∀ entry ∈ record.exports, Reading.OneLine entry := by
  have typeName : Reading.OneLine record.typeName := Reading.oneLine_of_isTypeName valid
  have exposed : Reading.OneLine record.exposedType := by
    unfold exposedType
    split
    · exact Reading.oneLine_append.mpr ⟨typeName, by decide⟩
    · exact typeName
  rw [exports, List.forall_mem_cons, List.forall_mem_cons, List.forall_mem_singleton]
  exact ⟨exposed, Reading.oneLine_of_isValueName (Elm.isValueName_encoderName valid),
    Reading.oneLine_of_isValueName (Elm.isValueName_decoderName valid)⟩

end Record

namespace Schema

variable {name version : String} {declarations : OrderedMap String RecordDecl} {schema : Schema}
variable {modules : ImportModules} {moduleName : String} {time : Int}

/-- **The first lines of a module** list what its records expose. -/
theorem exportEntries_assemble {records : List Record} {bodies : List String}
    (validModule : Elm.isModuleName moduleName = true) (inhabited : records ≠ [])
    (valid : ∀ record ∈ records, Elm.isTypeName record.typeName = true) :
    exportEntries (schema.assemble modules moduleName time records bodies) =
      some (records.flatMap Record.exports) := by
  have exported : records.flatMap Record.exports ≠ [] := by
    obtain ⟨record, rest, rfl⟩ := List.exists_cons_of_ne_nil inhabited
    exact List.cons_ne_nil _ _
  have single : ∀ line ∈ declarationLines moduleName records, Reading.OneLine line := by
    rw [declarationLines, List.cons_append, List.forall_mem_cons, List.forall_mem_append,
      List.forall_mem_singleton]
    refine ⟨?_, Reading.oneLine_leadLines _ _ (by decide) (by decide) ?_, by decide⟩
    · have named : Reading.OneLine moduleName := Elm.not_mem_moduleName rfl (by decide) validModule
      exact Reading.oneLine_append.mpr ⟨Reading.oneLine_append.mpr ⟨by decide, named⟩, by decide⟩
    · intro entry member
      obtain ⟨record, inside, exported⟩ := List.mem_flatMap.mp member
      exact Record.oneLine_exports (valid record inside) entry exported
  rw [exportEntries, assemble]
  simp only [String.append_assoc]
  rw [Reading.linesOf_unlines single, declarationLines, List.cons_append, List.cons_append,
    List.append_assoc]
  show (Reading.items "    " "(" ")" (_ ++ ("    " ++ ")") :: _)).map _ = _
  rw [Reading.items_leadLines (by decide) exported, Option.map_some]

/-- The first lines of a module expose the names of its records. -/
theorem exposedNames_assemble {records : List Record} {bodies : List String}
    (validModule : Elm.isModuleName moduleName = true) (inhabited : records ≠ [])
    (valid : ∀ record ∈ records, Elm.isTypeName record.typeName = true) :
    exposedNames (schema.assemble modules moduleName time records bodies) =
      some ((records.map (·.typeName)).flatMap definedNames) := by
  have names : (records.flatMap Record.exports).map (fun entry => (Reading.splitName entry).1) =
      (records.map (·.typeName)).flatMap definedNames := by
    rw [List.map_flatMap, List.flatMap_map]
    exact List.flatMap_congr fun record member => Record.splitName_exports (valid record member)
  rw [exposedNames_eq, exportEntries_assemble validModule inhabited valid, Option.map_some, names]

/-- The records of a module that is emitted, and its list of what it exposes. -/
theorem sortedRecords_of_emit (built : Schema.build name version declarations = .ok schema)
    {text : String} (emitted : schema.emit modules moduleName time = .ok text) :
    ∃ records bodies, schema.sortedRecords = .ok records ∧
      records.mapM (Record.render schema) = .ok bodies ∧
        schema.assemble modules moduleName time records bodies = text ∧
          Elm.isModuleName moduleName = true ∧ records ≠ [] := by
  obtain ⟨validModule, inhabited, records, bodies, sorted, rendered, same⟩ :=
    emit_eq_ok_iff.mp emitted
  refine ⟨records, bodies, sorted, rendered, same, validModule, ?_⟩
  obtain ⟨resolved, each, perm⟩ := sortedRecords_perm built sorted
  rintro rfl
  have empty : schema.records.entries.length = 0 := by
    rw [each.length_eq, ← perm.length_eq, List.length_nil]
  rw [OrderedMap.isEmpty, List.eq_nil_of_length_eq_zero empty] at inhabited
  cases inhabited

/-- The names of a module are those of its declarations. -/
theorem exposedNames_of_emit (built : Schema.build name version declarations = .ok schema)
    {text : String} (emitted : schema.emit modules moduleName time = .ok text) :
    ∃ typeNames : List String, typeNames.Perm (declarations.keys.map Elm.displayName) ∧
      exposedNames text = some (typeNames.flatMap definedNames) := by
  obtain ⟨records, bodies, sorted, _, rfl, validModule, nonempty⟩ :=
    sortedRecords_of_emit built emitted
  obtain ⟨resolved, each, perm⟩ := sortedRecords_perm built sorted
  have typeNames : resolved.map (·.typeName) = declarations.keys.map Elm.displayName := by
    rw [typeNames_of_resolved each, ← keys_of_build built, OrderedMap.keys]
  refine ⟨records.map (·.typeName), typeNames ▸ perm.map _, ?_⟩
  exact exposedNames_assemble validModule nonempty fun record member =>
    typeName_of_mem_sortedRecords built sorted member

/-- **The names of a module are distinct** exactly when no two of its declarations have the types
`XDecoder` and `EncodeX`. -/
theorem exposedNames_nodup_iff (built : Schema.build name version declarations = .ok schema)
    {text : String} (emitted : schema.emit modules moduleName time = .ok text) :
    ∃ names : List String, exposedNames text = some names ∧
      names.Perm ((declarations.keys.map Elm.displayName).flatMap definedNames) ∧
      (names.Nodup ↔ ¬∃ x, x ++ "Decoder" ∈ declarations.keys.map Elm.displayName ∧
        "Encode" ++ x ∈ declarations.keys.map Elm.displayName) := by
  obtain ⟨typeNames, perm, read⟩ := exposedNames_of_emit built emitted
  obtain ⟨rules, _⟩ := build_eq_ok_iff.mp built
  have valid : ∀ typeName ∈ declarations.keys.map Elm.displayName,
      Elm.isTypeName typeName = true := List.forall_mem_map.mpr rules.typeNames
  have names := perm.flatMap_right definedNames
  refine ⟨_, read, names, ?_⟩
  rw [names.nodup_iff, flatMap_definedNames_nodup_iff valid rules.typeNamesDistinct]
  constructor
  · rintro clear ⟨x, decoder, encoder⟩
    exact clear _ decoder _ encoder ⟨x, rfl, rfl⟩
  · rintro clear first firstMember second secondMember ⟨x, rfl, rfl⟩
    exact clear ⟨x, firstMember, secondMember⟩

/-- Declarations without fields under the given names. -/
def fieldless (names : List String) : OrderedMap String RecordDecl :=
  .ofList (names.map fun name =>
    (name, { description := "", fields := .empty, breaksRecursion := false }))

/-- The names of a module with two types that do not clash. -/
theorem exposedNames_line_point :
    ∃ schema text names, Schema.build "shapes" "1" (fieldless ["Line", "Point"]) = .ok schema ∧
      schema.emit {} "Shapes" 0 = .ok text ∧ exposedNames text = some names ∧ names.Nodup := by
  have built : Schema.build "shapes" "1" (fieldless ["Line", "Point"]) =
    .ok ⟨"shapes", "1", fieldless ["Line", "Point"]⟩ := rfl
  obtain ⟨text, emitted⟩ : ∃ text, Schema.emit ⟨"shapes", "1", fieldless ["Line", "Point"]⟩
    {} "Shapes" 0 = .ok text := ⟨_, rfl⟩
  obtain ⟨names, read, _, distinct⟩ := exposedNames_nodup_iff built emitted
  refine ⟨_, text, names, built, emitted, read, distinct.mpr ?_⟩
  have types : (fieldless ["Line", "Point"]).keys.map Elm.displayName = ["Line", "Point"] := by
    decide +kernel
  rintro ⟨x, decoder, _⟩
  have short : ∀ typeName ∈ ["Line", "Point"], typeName.length < 7 := by decide
  rw [types] at decoder
  have long := short _ decoder
  rw [String.length_append, show "Decoder".length = 7 from rfl] at long
  omega

/-- The types `EncodeFoo` and `FooDecoder` define one name twice. -/
theorem exposedNames_clash :
    ∃ schema text names,
      Schema.build "clash" "1" (fieldless ["EncodeFoo", "FooDecoder"]) = .ok schema ∧
        schema.emit {} "Clash" 0 = .ok text ∧ exposedNames text = some names ∧ ¬names.Nodup := by
  have built : Schema.build "clash" "1" (fieldless ["EncodeFoo", "FooDecoder"]) =
    .ok ⟨"clash", "1", fieldless ["EncodeFoo", "FooDecoder"]⟩ := rfl
  obtain ⟨text, emitted⟩ : ∃ text, Schema.emit ⟨"clash", "1", fieldless ["EncodeFoo", "FooDecoder"]⟩
    {} "Clash" 0 = .ok text := ⟨_, rfl⟩
  obtain ⟨typeNames, perm, read⟩ := exposedNames_of_emit built emitted
  refine ⟨_, text, _, built, emitted, read, ?_⟩
  rw [(perm.flatMap_right definedNames).nodup_iff]
  decide +kernel

end Schema

end ElmCodec
