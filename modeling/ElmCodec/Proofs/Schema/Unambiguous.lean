/-
**Which types have the same texts.**

A record may be called what a word is called in Elm: nothing keeps a schema from having a record
`Int` or `Timestamp`. Such a record and the word have one text. Apart from that the texts of any two
types differ, in containers of any depth.

* `Schema.Unambiguous` — different types have different texts.
* `Writing.Writes.unambiguous_iff` — **texts are unambiguous** exactly when no record imitates a
  word.
* `Schema.names_imitate_iff`, `Schema.encoders_imitate_iff`, `Schema.decoders_imitate_iff` — which
  records do, in each of the three ways to write types.
* `Schema.renderings_unambiguous_iff` — **which schemas have unambiguous texts**.
* `Schema.timestamp_rendered_alike` — a schema that has not.
-/

import ElmCodec.Proofs.FieldType.Writing

namespace ElmCodec

open FieldType (words)

/-- **Different types have different texts**, and every type has one. -/
def Schema.Unambiguous (schema : Schema) (render : FieldType → Except SchemaError String) : Prop :=
  ∀ token other type otherType, schema.parseType token = .ok type →
    schema.parseType other = .ok otherType → type ≠ otherType →
      ∃ text otherText, render type = .ok text ∧ render otherType = .ok otherText ∧ text ≠ otherText

section Built

variable {name version : String} {declarations : OrderedMap String RecordDecl} {schema : Schema}
variable (built : Schema.build name version declarations = .ok schema)
include built

namespace Schema

/-- The spelling of a type has the type. -/
theorem parseType_spell (type : FieldType) (spellable : type.Spellable schema.declares) :
    schema.parseType type.spell = .ok type :=
  (FieldType.parse_eq_ok_iff (plainNames_of_build built)).mpr
    ⟨spellable, .ends (FieldType.blankAround_self _)⟩

/-- No two records of a schema have one type name. -/
theorem displayName_injOn_of_build (record other : String) (declared : schema.declares record = true)
    (declared' : schema.declares other = true)
    (same : Elm.displayName record = Elm.displayName other) : record = other := by
  obtain ⟨rules, _⟩ := build_eq_ok_iff.mp built
  rw [declares_of_build built, OrderedMap.contains_iff_mem_keys] at declared declared'
  exact List.inj_on_of_nodup_map rules.typeNamesDistinct declared declared' same

end Schema

/-- **Texts are unambiguous** exactly when no record imitates a word. -/
theorem Writing.Writes.unambiguous_iff {writing : Writing}
    {render : FieldType → Except SchemaError String} (writes : writing.Writes schema render)
    (lawful : writing.Lawful) :
    schema.Unambiguous render ↔
      ∀ record, schema.declares record = true → ∀ word ∈ words, ¬writing.Imitates record word := by
  constructor
  · intro unambiguous record declared word member ⟨same, eager⟩
    obtain ⟨text, rendered, _, plain⟩ := writes.record declared
    obtain ⟨_, otherText, renderedWord, renderedRecord, differ⟩ :=
      unambiguous word.spell record word (.record record)
        (Schema.parseType_spell built word (FieldType.spellable_of_word member))
        (Schema.parseType_spell built (.record record) declared)
        (by rintro rfl; simp [words] at member)
    rw [(writes.word word member).1] at renderedWord
    rw [rendered, plain eager] at renderedRecord
    rw [← Except.ok.inj renderedWord, ← Except.ok.inj renderedRecord] at differ
    exact differ same
  · intro unlike token other type otherType parsed parsed' differ
    have inScope := FieldType.inScope_of_parse parsed
    have inScope' := FieldType.inScope_of_parse parsed'
    obtain ⟨text, rendered, read⟩ := writes.exists_text inScope
    obtain ⟨otherText, rendered', read'⟩ := writes.exists_text inScope'
    refine ⟨text, otherText, rendered, rendered', ?_⟩
    rintro rfl
    exact differ (lawful.expr_injOn (Schema.wellNamed_of_build built)
      (Schema.displayName_injOn_of_build built) unlike inScope inScope'
      (Option.some.inj (read.symm.trans read')))

end Built

/-! ### Records that imitate words -/

namespace Schema

section Imitates

variable {record : String} (valid : Elm.isTypeName (Elm.displayName record) = true)
include valid

/-- A name of another module is not that of a record. -/
theorem not_imitates_of_qualified {writing : Writing} (lawful : writing.Lawful) {word : FieldType}
    (qualified : '.' ∈ (writing.word word).toList) : ¬writing.Imitates record word :=
  fun imitates => lawful.unqualified valid (imitates.1 ▸ qualified)

/-- **The names of types** that words have. -/
theorem names_imitate_iff : (∀ word ∈ words, ¬Writing.names.Imitates record word) ↔
    Elm.displayName record ∉ ["Bool", "Int", "String", "Float", "Timestamp"] := by
  have other {word : FieldType} : Writing.names.Imitates record word ↔
      Elm.displayName record = word.elmName := and_iff_left rfl |>.trans eq_comm
  have value : Elm.displayName record ≠ FieldType.value.elmName :=
    mt other.mpr (not_imitates_of_qualified valid Writing.names_lawful (by decide))
  simp only [words, List.forall_mem_cons, other, value, not_false_eq_true, true_and]
  simp [FieldType.elmName]

/-- **The encoders** that words have. -/
theorem encoders_imitate_iff : (∀ word ∈ words, ¬Writing.encoders.Imitates record word) ↔
    Elm.displayName record ≠ "Timestamp" := by
  have qualified (word : FieldType) (qualified : '.' ∈ word.encoder.toList) :
      ¬Writing.encoders.Imitates record word :=
    not_imitates_of_qualified valid Writing.encoders_lawful qualified
  have value : ¬Writing.encoders.Imitates record .value := by
    rintro ⟨same, _⟩
    have letters := congrArg (·.toList.head?) same
    rw [show Writing.encoders.named (Elm.displayName record) = "encode" ++ Elm.displayName record
      from rfl, String.toList_append] at letters
    exact absurd (show some 'i' = some 'e' from letters) (by decide)
  have timestamp : Writing.encoders.Imitates record .timestamp ↔
      Elm.displayName record = "Timestamp" :=
    (and_iff_left rfl).trans (Elm.encoderName_injective.eq_iff (a := "Timestamp")) |>.trans eq_comm
  simp only [words, List.forall_mem_cons, value, qualified .bool (by decide),
    qualified .int (by decide), qualified .string (by decide),
    qualified .float (by decide), timestamp, not_false_eq_true, true_and]
  simp

/-- **The decoders** that words have. -/
theorem decoders_imitate_iff {schema : Schema} {decl : RecordDecl}
    (found : schema.records.get? record = some decl) :
    (∀ word ∈ words, ¬(Writing.decoders schema).Imitates record word) ↔
      (Elm.displayName record = "Timestamp" → decl.selfReferencing = true) := by
  have qualified (word : FieldType) (qualified : '.' ∈ (Writing.decoderWord word).toList) :
      ¬(Writing.decoders schema).Imitates record word :=
    not_imitates_of_qualified valid (Writing.decoders_lawful schema) qualified
  have lazily : (Writing.decoders schema).lazily record = decl.selfReferencing := by
    show (schema.records.get? record).any _ = _
    rw [found]
    rfl
  have sameName : decoderName "Timestamp" = decoderName (Elm.displayName record) ↔
      Elm.displayName record = "Timestamp" :=
    ⟨fun same => (Elm.decoderName_injOn (by decide) valid same).symm, fun same => by rw [same]⟩
  have timestamp : (Writing.decoders schema).Imitates record .timestamp ↔
      Elm.displayName record = "Timestamp" ∧ decl.selfReferencing = false := by
    rw [Writing.Imitates, lazily, ← sameName]
    rfl
  simp only [words, List.forall_mem_cons, qualified .bool (by decide),
    qualified .int (by decide), qualified .string (by decide),
    qualified .float (by decide), qualified .value (by decide), timestamp,
    not_false_eq_true, true_and]
  simp

end Imitates

/-- **Which schemas have unambiguous texts.** The names of types are, exactly when no record is
called like a word; the encoders, when none is called `Timestamp`; and the decoders, when none is
called so that is not referred to lazily. -/
theorem renderings_unambiguous_iff {name version : String}
    {declarations : OrderedMap String RecordDecl} {schema : Schema}
    (built : Schema.build name version declarations = .ok schema) :
    (schema.Unambiguous (fun type => .ok type.elmName) ↔
      ∀ record ∈ schema.records.keys,
        Elm.displayName record ∉ ["Bool", "Int", "String", "Float", "Timestamp"]) ∧
    (schema.Unambiguous (fun type => .ok type.encoder) ↔
      ∀ record ∈ schema.records.keys, Elm.displayName record ≠ "Timestamp") ∧
    (schema.Unambiguous (fun type => type.decoder schema) ↔
      ∀ record decl, schema.records.get? record = some decl →
        Elm.displayName record = "Timestamp" → decl.selfReferencing = true) := by
  have wellNamed := wellNamed_of_build built
  have declared {record : String} : schema.declares record = true ↔ record ∈ schema.records.keys :=
    OrderedMap.contains_iff_mem_keys
  refine ⟨?_, ?_, ?_⟩
  · rw [(Writing.names_writes wellNamed).unambiguous_iff built Writing.names_lawful]
    exact forall_congr' fun record => imp_congr_ctx declared fun member =>
      names_imitate_iff (wellNamed record (declared.mpr member))
  · rw [(Writing.encoders_writes wellNamed).unambiguous_iff built Writing.encoders_lawful]
    exact forall_congr' fun record => imp_congr_ctx declared fun member =>
      encoders_imitate_iff (wellNamed record (declared.mpr member))
  · rw [(Writing.decoders_writes wellNamed).unambiguous_iff built (Writing.decoders_lawful schema)]
    refine forall_congr' fun record => ?_
    rw [declared, OrderedMap.mem_keys_iff, forall_exists_index]
    exact forall_congr' fun decl => forall_congr' fun found =>
      decoders_imitate_iff (wellNamed record (declared.mpr (OrderedMap.mem_keys_iff.mpr ⟨_, found⟩)))
        found

/-- The declarations of a list of notes, each with its time. -/
def noteDeclarations : OrderedMap String RecordDecl :=
  .ofList [
    ("Note", { description := "", fields := .ofList [("at", ⟨"timestamp", .required⟩)]
               breaksRecursion := false }),
    ("note.list", { description := "", fields := .ofList [("all", ⟨"[Note]", .required⟩)]
                    breaksRecursion := false })]

/-- Notes and lists of them are called like no word. -/
theorem note_renderings_unambiguous :
    ∃ schema, Schema.build "notes" "1" noteDeclarations = .ok schema ∧
      schema.Unambiguous (fun type => .ok type.elmName) ∧
      schema.Unambiguous (fun type => .ok type.encoder) ∧
      schema.Unambiguous (fun type => type.decoder schema) := by
  have built : Schema.build "notes" "1" noteDeclarations =
    .ok ⟨"notes", "1", noteDeclarations⟩ := rfl
  obtain ⟨names, encoders, decoders⟩ := renderings_unambiguous_iff built
  have unlike : ∀ record ∈ noteDeclarations.keys,
      Elm.displayName record ∉ ["Bool", "Int", "String", "Float", "Timestamp"] := by
    decide +kernel
  have notTimestamp : ∀ record ∈ noteDeclarations.keys, Elm.displayName record ≠ "Timestamp" :=
    fun record member same => unlike record member (by rw [same]; decide)
  refine ⟨_, built, names.mpr unlike, encoders.mpr notTimestamp, decoders.mpr ?_⟩
  intro record decl found same
  exact absurd same (notTimestamp record (OrderedMap.mem_keys_iff.mpr ⟨decl, found⟩))

/-- The declarations of one record, called `Timestamp`. -/
def timestampDeclarations : OrderedMap String RecordDecl :=
  .ofList [("Timestamp", { description := "", fields := .empty, breaksRecursion := false })]

/-- **A record called `Timestamp`** and the word `timestamp` have the same three texts. -/
theorem timestamp_rendered_alike :
    ∃ schema, Schema.build "clock" "1" timestampDeclarations = .ok schema ∧
      schema.parseType "timestamp" = .ok .timestamp ∧
      schema.parseType "Timestamp" = .ok (.record "Timestamp") ∧
      FieldType.timestamp.elmName = (FieldType.record "Timestamp").elmName ∧
      FieldType.timestamp.encoder = (FieldType.record "Timestamp").encoder ∧
      ∃ text, FieldType.timestamp.decoder schema = .ok text ∧
        (FieldType.record "Timestamp").decoder schema = .ok text :=
  ⟨⟨"clock", "1", timestampDeclarations⟩, rfl, rfl, rfl, rfl, rfl, _, rfl, rfl⟩

end Schema

end ElmCodec
