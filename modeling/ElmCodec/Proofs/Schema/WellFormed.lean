/-
**A schema is built of well-formed declarations, and of no others.**

What makes declarations well-formed is said here without the checks: of characters, of the parts of
texts and of look-ups.

* `IsBlank`, `IsDelimited`, `Elm.IsCapitalized` — the texts that the rules speak of.
* `WellFormed` — **well-formed declarations**; `accepts_iff_wellFormed` — they are those that keep
  the rules.
* `Holds` — a schema that holds declarations as they were given, apart from their marks.
* `build_isOk_iff_wellFormed` — **a schema is built exactly of well-formed declarations**, and it
  holds them.
-/

import ElmCodec.Proofs.Codec.Resolved
import ElmCodec.Proofs.Reading.Lines

namespace ElmCodec

open Reading

/-! ### Texts -/

/-- A text without any other character than blank ones. -/
def IsBlank (text : String) : Prop := ∀ c ∈ text.toList, Text.isBlank c = true

/-- A text in which a comment would start or end. -/
def IsDelimited (text : String) : Prop :=
  "\x7b-".toList <:+: text.toList ∨ "-\x7d".toList <:+: text.toList

/-- A capital, and letters, digits and underscores after it, all in ASCII. -/
def Elm.IsCapitalized (name : String) : Prop :=
  ∃ first rest, name.toList = first :: rest ∧ ('A' ≤ first ∧ first ≤ 'Z') ∧
    ∀ c ∈ rest, ('A' ≤ c ∧ c ≤ 'Z') ∨ ('a' ≤ c ∧ c ≤ 'z') ∨ ('0' ≤ c ∧ c ≤ '9') ∨ c = '_'

theorem isBlankText_eq_false_iff {text : String} :
    Text.isBlankText text = false ↔ ¬IsBlank text := by
  rw [Text.isBlankText, ← Bool.not_eq_true, List.all_eq_true]
  rfl

theorem hasCommentDelimiter_eq_false_iff_not {text : String} :
    hasCommentDelimiter text = false ↔ ¬IsDelimited text := by
  rw [hasCommentDelimiter, Bool.or_eq_false_iff, hasPart_eq_false_iff, hasPart_eq_false_iff,
    IsDelimited, not_or]
  exact and_comm

theorem Elm.isCapital_iff {c : Char} : c.isUpper = true ↔ 'A' ≤ c ∧ c ≤ 'Z' :=
  decide_eq_true_iff

theorem isBetween_iff {low high c : Char} :
    (decide (low ≤ c) && decide (c ≤ high)) = true ↔ low ≤ c ∧ c ≤ high := by
  rw [Bool.and_eq_true, decide_eq_true_iff, decide_eq_true_iff]

/-- The characters of an identifier are the letters and digits of ASCII, and the underscore. -/
theorem Elm.isNameChar_iff {c : Char} :
    isNameChar c = true ↔
      ('A' ≤ c ∧ c ≤ 'Z') ∨ ('a' ≤ c ∧ c ≤ 'z') ∨ ('0' ≤ c ∧ c ≤ '9') ∨ c = '_' := by
  have small : c.isLower = true ↔ 'a' ≤ c ∧ c ≤ 'z' := isBetween_iff
  have digit : c.isDigit = true ↔ '0' ≤ c ∧ c ≤ '9' := isBetween_iff
  show (c.isUpper || c.isLower || c.isDigit || c == '_') = true ↔ _
  rw [Bool.or_eq_true, Bool.or_eq_true, Bool.or_eq_true, isCapital_iff, small, digit, beq_iff_eq,
    or_assoc, or_assoc]

theorem Elm.isTypeName_iff {name : String} : isTypeName name = true ↔ IsCapitalized name := by
  unfold isTypeName IsCapitalized
  cases name.toList with
  | nil => simp [isNameFrom]
  | cons first rest =>
    rw [isNameFrom, Bool.and_eq_true, List.all_eq_true]
    simp only [isNameChar_iff, isCapital_iff]
    constructor
    · exact fun both => ⟨first, rest, rfl, both⟩
    · rintro ⟨_, _, same, both⟩
      obtain ⟨rfl, rfl⟩ := List.cons.inj same
      exact both

namespace Schema

/-! ### The rules -/

/-- **Well-formed declarations.** -/
structure WellFormed (name version : String) (records : OrderedMap String RecordDecl) : Prop where
  named : ¬IsBlank name
  versioned : ¬IsBlank version
  inhabited : ∃ record decl, records.get? record = some decl
  nameQuiet : ¬IsDelimited name
  descriptionQuiet : ∀ record decl, records.get? record = some decl → ¬IsDelimited decl.description
  capitalized : ∀ record decl, records.get? record = some decl →
    Elm.IsCapitalized (Elm.displayName record)
  /-- A record is known by its type name. -/
  distinct : ∀ first second, records.contains first = true → records.contains second = true →
    Elm.displayName first = Elm.displayName second → first = second
  /-- The text of every field is that of a type, given the names of the records. -/
  typed : ∀ record decl, records.get? record = some decl →
    ∀ key field, decl.fields.get? key = some field →
      ∃ type, FieldType.parse records.contains field.typeText = .ok type

/-- A map is not empty when one of its keys has a value. -/
theorem isEmpty_eq_false_iff {α : Type} {map : OrderedMap String α} :
    map.isEmpty = false ↔ ∃ key value, map.get? key = some value := by
  rw [OrderedMap.isEmpty, List.isEmpty_eq_false_iff_exists_mem]
  simp only [Prod.exists, OrderedMap.mem_entries_iff]

/-- What holds of every value holds of all that is found. -/
theorem forall_mem_values_iff {α : Type} {map : OrderedMap String α} {property : α → Prop} :
    (∀ value ∈ map.values, property value) ↔
      ∀ key value, map.get? key = some value → property value := by
  simp only [OrderedMap.values, List.forall_mem_map, Prod.forall, OrderedMap.mem_entries_iff]

/-- No two keys have one image exactly when a key is known by its image. -/
theorem nodup_map_keys_iff {α : Type} {map : OrderedMap String α} {image : String → String} :
    (map.keys.map image).Nodup ↔ ∀ first second, map.contains first = true →
      map.contains second = true → image first = image second → first = second := by
  rw [List.nodup_map_iff_inj_on map.keys_nodup]
  simp only [OrderedMap.contains_iff_mem_keys]
  exact ⟨fun known first second inside member => known first inside second member,
    fun known first inside second member => known first second inside member⟩

/-- **Declarations keep the rules** exactly when they are well-formed. -/
theorem accepts_iff_wellFormed {name version : String} {records : OrderedMap String RecordDecl} :
    Accepts name version records ↔ WellFormed name version records := by
  have described : (∀ entry ∈ records.entries, hasCommentDelimiter entry.2.description = false) ↔
      ∀ record decl, records.get? record = some decl → ¬IsDelimited decl.description := by
    simp only [Prod.forall, OrderedMap.mem_entries_iff, hasCommentDelimiter_eq_false_iff_not]
  have capitalized : (∀ record ∈ records.keys, Elm.isTypeName (Elm.displayName record) = true) ↔
      ∀ record decl, records.get? record = some decl →
        Elm.IsCapitalized (Elm.displayName record) := by
    simp only [OrderedMap.mem_keys_iff, forall_exists_index, Elm.isTypeName_iff]
  have typed : (∀ entry ∈ records.entries, entry.2.Typed records.contains) ↔
      ∀ record decl, records.get? record = some decl →
        ∀ key field, decl.fields.get? key = some field →
          ∃ type, FieldType.parse records.contains field.typeText = .ok type := by
    simp only [Prod.forall, OrderedMap.mem_entries_iff, RecordDecl.Typed, forall_mem_values_iff]
  constructor
  · intro rules
    exact ⟨isBlankText_eq_false_iff.mp rules.nameNotBlank,
      isBlankText_eq_false_iff.mp rules.versionNotBlank, isEmpty_eq_false_iff.mp rules.notEmpty,
      hasCommentDelimiter_eq_false_iff_not.mp rules.nameClean,
      described.mp rules.descriptionsClean, capitalized.mp rules.typeNames,
      nodup_map_keys_iff.mp rules.typeNamesDistinct, typed.mp rules.typed⟩
  · intro formed
    exact ⟨isBlankText_eq_false_iff.mpr formed.named,
      isBlankText_eq_false_iff.mpr formed.versioned, isEmpty_eq_false_iff.mpr formed.inhabited,
      hasCommentDelimiter_eq_false_iff_not.mpr formed.nameQuiet,
      described.mpr formed.descriptionQuiet, capitalized.mpr formed.capitalized,
      nodup_map_keys_iff.mpr formed.distinct, typed.mpr formed.typed⟩

/-! ### The schema -/

/-- **A schema holds declarations** as they were given, apart from their marks. -/
structure Holds (schema : Schema) (name version : String)
    (records : OrderedMap String RecordDecl) : Prop where
  name : schema.name = name
  version : schema.version = version
  keys : schema.records.keys = records.keys
  /-- Description, fields and wish for a type of its own are those of the declaration. The mark is
  set when it was set before, when there is that wish or when a field mentions the record. -/
  decl : ∀ record decl, records.get? record = some decl → ∃ mark,
    schema.records.get? record = some { decl with selfReferencing := mark } ∧
      (mark = true ↔ decl.selfReferencing = true ∨ decl.breaksRecursion = true ∨
        ∃ key field type, decl.fields.get? key = some field ∧
          FieldType.parse records.contains field.typeText = .ok type ∧
            type.mentions record = true)
  /-- Every text has the type that it has beside the declarations. -/
  types : ∀ text, schema.parseType text = FieldType.parse records.contains text

/-- Which records need a type of their own. -/
theorem needsOwnType_iff {declares : String → Bool} {record : String} {decl : RecordDecl} :
    decl.needsOwnType declares record = true ↔
      decl.selfReferencing = true ∨ decl.breaksRecursion = true ∨
        ∃ key field type, decl.fields.get? key = some field ∧
          FieldType.parse declares field.typeText = .ok type ∧ type.mentions record = true := by
  rw [RecordDecl.needsOwnType, Bool.or_eq_true, Bool.or_eq_true, RecordDecl.mentions_iff]
  simp only [OrderedMap.values, List.mem_map, Prod.exists, exists_eq_right,
    OrderedMap.mem_entries_iff]
  refine or_congr_right (or_congr_right ?_)
  constructor
  · rintro ⟨field, ⟨key, found⟩, type, parsed, mentioned⟩
    exact ⟨key, field, type, found, parsed, mentioned⟩
  · rintro ⟨key, field, type, found, parsed, mentioned⟩
    exact ⟨field, ⟨key, found⟩, type, parsed, mentioned⟩

section Built

variable {name version : String} {records : OrderedMap String RecordDecl} {schema : Schema}
variable (built : build name version records = .ok schema)
include built

/-- **A schema that is built** holds its declarations. -/
theorem holds_of_build : schema.Holds name version records where
  name := by
    obtain ⟨_, rfl⟩ := build_eq_ok_iff.mp built
    rfl
  version := by
    obtain ⟨_, rfl⟩ := build_eq_ok_iff.mp built
    rfl
  keys := keys_of_build built
  decl record decl found := by
    refine ⟨decl.needsOwnType records.contains record, ?_, needsOwnType_iff⟩
    rw [get?_of_build built, found]
    rfl
  types text := by rw [parseType, declares_of_build built]

end Built

/-- **A schema is built of well-formed declarations, and of no others.** It holds them as they were
given; only the marks may change. -/
theorem build_isOk_iff_wellFormed (name version : String)
    (records : OrderedMap String RecordDecl) :
    ((∃ schema, build name version records = .ok schema) ↔ WellFormed name version records) ∧
      ∀ schema, build name version records = .ok schema → schema.Holds name version records := by
  refine ⟨?_, fun schema built => holds_of_build built⟩
  rw [← accepts_iff_wellFormed]
  constructor
  · rintro ⟨schema, built⟩
    exact (build_eq_ok_iff.mp built).1
  · exact fun rules => ⟨_, build_eq_ok_iff.mpr ⟨rules, rfl⟩⟩

/-- The declarations of a room with a dotted name, which holds rooms. -/
def roomDeclarations : OrderedMap String RecordDecl :=
  .ofList [("m.room",
    { description := "A room.", fields := .ofList [("rooms", ⟨" [m.room ]", .required⟩)]
      breaksRecursion := false })]

/-- They are well-formed; the schema holds them, and the room gets its mark. -/
theorem room_wellFormed :
    WellFormed "rooms" "1" roomDeclarations ∧
      ∃ schema decl, build "rooms" "1" roomDeclarations = .ok schema ∧
        schema.Holds "rooms" "1" roomDeclarations ∧ roomDeclarations.get? "m.room" = some decl ∧
          schema.records.get? "m.room" = some { decl with selfReferencing := true } := by
  obtain ⟨schema, decl, built, found, marked⟩ : ∃ schema decl,
      build "rooms" "1" roomDeclarations = .ok schema ∧
        roomDeclarations.get? "m.room" = some decl ∧
          schema.records.get? "m.room" = some { decl with selfReferencing := true } :=
    ⟨_, _, rfl, rfl, rfl⟩
  obtain ⟨accepted, held⟩ := build_isOk_iff_wellFormed "rooms" "1" roomDeclarations
  exact ⟨accepted.mp ⟨schema, built⟩, schema, decl, built, held schema built, found, marked⟩

end Schema

end ElmCodec
