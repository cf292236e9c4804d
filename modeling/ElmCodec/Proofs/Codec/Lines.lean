/-
**The texts of a field end no line.**

A piece of a record is put together of lines; what fields add to a line must not end it. Names have
no line ends, and keys have theirs escaped. A default is written as it is, so that it ends no line
has to be asked of it.

* `FieldType.oneLine_texts` — the name, the encoder and the decoder of a type.
* `Field.oneLine_annotation`, `Field.oneLine_encoder`, `Field.oneLine_decoder` — the texts of a
  field.
* `Record.oneLine_typeLines`, `Record.oneLine_encoderLines` — the lines of a record are lines.
-/

import ElmCodec.Proofs.Codec.Resolved
import ElmCodec.Proofs.Reading.Lines

namespace ElmCodec

open Reading

section Lines

variable {schema : Schema}
variable (typeNames : schema.WellNamed)
include typeNames

/-! ### Types and fields -/

/-- **The texts of a type in scope** end no line. -/
theorem FieldType.oneLine_texts {type : FieldType} (inScope : type.InScope schema.declares) :
    OneLine type.elmName ∧ OneLine type.encoder ∧
      ∀ text, type.decoder schema = .ok text → OneLine text := by
  induction type with
  | bool | int | string | float | timestamp | value =>
    refine ⟨by decide, by decide, fun text same => ?_⟩
    cases same
    decide
  | enumeration name =>
    have named : Elm.isTypeName name = true := inScope
    refine ⟨oneLine_append.mpr ⟨by decide, oneLine_of_isTypeName named⟩,
      oneLine_append.mpr ⟨by decide, oneLine_of_isValueName (Elm.isValueName_encoderName named)⟩,
      fun text same => ?_⟩
    cases same
    exact oneLine_append.mpr
      ⟨by decide, oneLine_of_isValueName (Elm.isValueName_decoderName named)⟩
  | record name =>
    have named := typeNames name inScope
    have decoder := oneLine_of_isValueName (Elm.isValueName_decoderName named)
    refine ⟨oneLine_of_isTypeName named,
      oneLine_of_isValueName (Elm.isValueName_encoderName named), fun text same => ?_⟩
    rw [FieldType.decoder] at same
    split at same
    · cases same
      unfold recordDecoder
      split
      · exact oneLine_append.mpr ⟨oneLine_append.mpr ⟨by decide, decoder⟩, by decide⟩
      · exact decoder
    · cases same
  | list element ih | dict element ih =>
    obtain ⟨elmName, encoder, decoder⟩ := ih inScope
    refine ⟨oneLine_append.mpr ⟨by decide, oneLine_argument elmName⟩,
      oneLine_append.mpr ⟨by decide, oneLine_argument encoder⟩, fun text same => ?_⟩
    obtain ⟨inner, decoded, rfl⟩ := map_eq_ok_iff.mp same
    exact oneLine_append.mpr ⟨by decide, oneLine_argument (decoder inner decoded)⟩

namespace Field

variable {field : Field} (inScope : field.InScope schema)
include inScope

theorem oneLine_annotation : OneLine field.annotation := by
  obtain ⟨elmName, _⟩ := FieldType.oneLine_texts typeNames inScope.type
  unfold annotation
  split
  · exact oneLine_append.mpr ⟨by decide, oneLine_argument elmName⟩
  · exact elmName

theorem oneLine_encoder : OneLine field.encoder := by
  obtain ⟨_, encoder, _⟩ := FieldType.oneLine_texts typeNames inScope.type
  have access : OneLine field.access :=
    oneLine_append.mpr ⟨by decide, oneLine_of_isValueName inScope.name⟩
  have whole : OneLine ("Just <| " ++ field.type.encoder ++ " " ++ field.access) := by
    simp only [oneLine_append]
    exact ⟨⟨⟨by decide, encoder⟩, by decide⟩, access⟩
  have mapped :
      OneLine ("Maybe.map " ++ Elm.argument field.type.encoder ++ " " ++ field.access) := by
    simp only [oneLine_append]
    exact ⟨⟨⟨by decide, oneLine_argument encoder⟩, by decide⟩, access⟩
  unfold Field.encoder
  cases field.presence with
  | never => exact (by decide : OneLine "Nothing")
  | now => exact mapped
  | required => exact whole
  | optional default =>
    cases default with
    | some _ => exact whole
    | none =>
      show OneLine (if field.type.isValue then _ else _)
      split
      · exact access
      · exact mapped

/-- **The decoder of a field** ends no line when its default ends none. -/
theorem oneLine_decoder
    (defaults : ∀ default, field.presence = .optional (some default) → OneLine default.toElm)
    {text : String} (decoded : field.decoder schema = .ok text) : OneLine text := by
  have key : OneLine (Elm.stringLiteral field.key) := oneLine_stringLiteral field.key
  have lookup : ∀ lookup ∈ field.lookup?, OneLine lookup := by
    unfold lookup?
    cases presence : field.presence with
    | never => exact fun _ => nofun
    | now | required =>
      rintro _ ⟨⟩
      exact oneLine_append.mpr ⟨by decide, key⟩
    | optional default =>
      cases default with
      | none =>
        rintro _ ⟨⟩
        exact oneLine_append.mpr ⟨by decide, key⟩
      | some default =>
        rintro _ ⟨⟩
        simp only [oneLine_append]
        exact ⟨⟨⟨by decide, key⟩, by decide⟩, oneLine_argument (defaults default presence)⟩
  unfold Field.decoder at decoded
  split at decoded
  · cases decoded
    decide
  · next start found =>
    obtain ⟨inner, innerDecoded, rfl⟩ := map_eq_ok_iff.mp decoded
    obtain ⟨_, _, decoder⟩ := FieldType.oneLine_texts typeNames inScope.type
    simp only [oneLine_append]
    exact ⟨⟨lookup start found, by decide⟩, oneLine_argument (decoder inner innerDecoded)⟩

end Field

/-! ### Records -/

namespace Record

variable {record : Record} (typed : Elm.isTypeName record.typeName = true)
variable (inScope : ∀ field ∈ record.fields, field.InScope schema)
include inScope

/-- The fields of a type, each on a line. -/
theorem oneLine_signatures :
    ∀ line ∈ record.fields.map fun field => field.name ++ " : " ++ field.annotation,
      OneLine line := by
  rw [List.forall_mem_map]
  intro field member
  simp only [oneLine_append]
  exact ⟨⟨oneLine_of_isValueName (inScope field member).name, by decide⟩,
    Field.oneLine_annotation typeNames (inScope field member)⟩

/-- The entries of an encoder, each on a line. -/
theorem oneLine_entries :
    ∀ line ∈ record.fields.map fun field =>
      "( " ++ Elm.stringLiteral field.key ++ ", " ++ field.encoder ++ " )", OneLine line := by
  rw [List.forall_mem_map]
  intro field member
  simp only [oneLine_append]
  exact ⟨⟨⟨⟨by decide, oneLine_stringLiteral field.key⟩, by decide⟩,
    Field.oneLine_encoder typeNames (inScope field member)⟩, by decide⟩

include typed

theorem oneLine_typeLines : ∀ line ∈ record.typeLines, OneLine line := by
  have typeName := oneLine_of_isTypeName typed
  have lead {indent : String} (indented : OneLine indent) :=
    oneLine_leadLines indent "\x7b" indented (by decide) (oneLine_signatures typeNames inScope)
  unfold typeLines
  split
  · split
    · simp only [List.forall_mem_cons, oneLine_append]
      exact ⟨⟨by decide, typeName⟩, ⟨⟨by decide, typeName⟩, by decide⟩, fun _ => nofun⟩
    · simp only [List.forall_mem_cons, List.forall_mem_append, oneLine_append, List.cons_append]
      exact ⟨⟨by decide, typeName⟩, ⟨by decide, typeName⟩, lead (by decide), by decide,
        fun _ => nofun⟩
  · split
    · simp only [List.forall_mem_cons, oneLine_append]
      exact ⟨⟨⟨by decide, typeName⟩, by decide⟩, by decide, fun _ => nofun⟩
    · simp only [List.forall_mem_cons, List.forall_mem_append, oneLine_append]
      exact ⟨⟨⟨by decide, typeName⟩, by decide⟩, lead (by decide), by decide, fun _ => nofun⟩

theorem oneLine_encoderLines : ∀ line ∈ record.encoderLines, OneLine line := by
  have typeName := oneLine_of_isTypeName typed
  have encoder : OneLine record.encoderName :=
    oneLine_of_isValueName (Elm.isValueName_encoderName typed)
  have pattern : OneLine record.pattern := by
    unfold Record.pattern
    split
    · exact oneLine_append.mpr ⟨oneLine_append.mpr ⟨by decide, typeName⟩, by decide⟩
    · decide
  have lead := oneLine_leadLines "        " "[" (by decide) (by decide)
    (oneLine_entries typeNames inScope)
  have first : ∀ line ∈ [record.encoderName ++ " : " ++ record.typeName ++ " -> E.Value",
      record.encoderName ++ " " ++ record.pattern ++ " ="], OneLine line := by
    simp only [List.forall_mem_cons, oneLine_append]
    exact ⟨⟨⟨⟨encoder, by decide⟩, typeName⟩, by decide⟩,
      ⟨⟨⟨encoder, by decide⟩, pattern⟩, by decide⟩, fun _ => nofun⟩
  rw [encoderLines, List.forall_mem_append]
  refine ⟨first, ?_⟩
  split
  · exact List.forall_mem_singleton.mpr (by decide)
  · rw [List.cons_append, List.forall_mem_cons, List.forall_mem_append, List.forall_mem_singleton]
    exact ⟨by decide, lead, by decide⟩

end Record

end Lines

end ElmCodec
