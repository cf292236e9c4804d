/-
**Which keys make fields, and which of them clash.**

A key of letters, digits and separators makes a field when its first character other than a
separator is a letter. Two keys give one field when they are made of the same words; the key `type`
stands for itself and meets `eventType` only.

* `FieldKey` — **a key that makes a field**.
* `Elm.isValueName_camelCase_iff` — the camel case of a key is a name exactly then.
* `Elm.underscore_mem_fieldName_iff` — the underscore of a field tells that it was reserved.
* `Elm.fieldName_eq_iff` — **two keys give one field** exactly when their camel cases are the same.
* `fields_of_keys` — all of it, for the declarations of a schema.
-/

import ElmCodec.Proofs.Codec.Resolved
import ElmCodec.Proofs.Elm.Words

namespace ElmCodec

/-- **A key that makes a field** has letters, digits and separators only, and a letter comes first
of all that are no separators. -/
structure FieldKey (key : String) : Prop where
  characters : ∀ c ∈ key.toList, c.isAlphanum = true ∨ c ∈ ['_', '.', '-', ' ']
  start : ∃ before first after, key.toList = before ++ first :: after ∧
    (∀ c ∈ before, c ∈ ['_', '.', '-', ' ']) ∧ first.isAlpha = true

namespace Elm

/-! ### The camel case of a key -/

section Characters

variable {c : Char}

/-- Case does not matter for being a character of names. -/
theorem isNameChar_toLower (c : Char) : isNameChar c.toLower = isNameChar c := by
  cases upper : c.isUpper with
  | true => rw [isNameChar_of_isUpper upper, isNameChar_of_isLower (isLower_toLower upper)]
  | false => rw [toLower_of_not_isUpper upper]

/-- What is no separator is a character of names when it is a letter or a digit. -/
theorem isNameChar_iff_of_not_isSeparator (other : isSeparator c = false) :
    isNameChar c = true ↔ c.isAlphanum = true := by
  have apart : (c == '_') = false := by
    simp only [isSeparator, Bool.or_eq_false_iff] at other
    exact other.1.1.1
  rw [isNameChar, apart, Bool.or_false]

end Characters

/-- A name of a value starts with a small letter and holds characters of names. -/
theorem isValueName_iff {name : String} : isValueName name = true ↔
    (∀ c ∈ name.toList, isNameChar c = true) ∧
      ∃ first, name.toList.head? = some first ∧ first.isLower = true := by
  unfold isValueName
  cases name.toList with
  | nil => simp [isNameFrom]
  | cons first rest =>
    rw [isNameFrom, Bool.and_eq_true, List.all_eq_true, List.forall_mem_cons]
    constructor
    · rintro ⟨lower, others⟩
      exact ⟨⟨isNameChar_of_isLower lower, others⟩, first, rfl, lower⟩
    · rintro ⟨⟨_, others⟩, _, ⟨⟩, lower⟩
      exact ⟨lower, others⟩

section Key

variable {key : String} (ascii : ∀ c ∈ key.toList, c.toNat < 128)
include ascii

/-- The camel case of a key holds characters of names only when the key holds letters, digits and
separators only. -/
theorem isNameChar_camelCase_iff : (∀ c ∈ (camelCase key).toList, isNameChar c = true) ↔
    ∀ c ∈ key.toList, c.isAlphanum = true ∨ c ∈ ['_', '.', '-', ' '] := by
  have lowered : ∀ cs : List Char, (∀ c ∈ cs, isNameChar c = true) ↔
      ∀ c ∈ cs.map Char.toLower, isNameChar c = true := by
    intro cs
    rw [List.forall_mem_map]
    simp only [isNameChar_toLower]
  rw [lowered, map_toLower_camelCase ascii, ← lowered]
  refine forall_congr' fun c => ?_
  rw [List.mem_filter, ← isSeparator_iff]
  cases separates : isSeparator c with
  | true => simp
  | false => simp [isNameChar_iff_of_not_isSeparator separates]

/-- The camel case of a key starts with a small letter when a letter comes first of all that are no
separators. -/
theorem isLower_head_camelCase_iff :
    (∃ first, (camelCase key).toList.head? = some first ∧ first.isLower = true) ↔
      ∃ before first after, key.toList = before ++ first :: after ∧
        (∀ c ∈ before, c ∈ ['_', '.', '-', ' ']) ∧ first.isAlpha = true := by
  have ascii' : ∀ c ∈ key.toList.filter (!isSeparator ·), c.toNat < 128 :=
    fun c member => ascii c (List.mem_filter.mp member).1
  rw [head?_camelCase, Text.lowerAll_of_ascii ascii', List.head?_map, List.head?_filter]
  constructor
  · rintro ⟨lowered, found, lower⟩
    obtain ⟨first, here, rfl⟩ := Option.map_eq_some_iff.mp found
    obtain ⟨_, before, after, whole, separators⟩ := List.find?_eq_some_iff_append.mp here
    rw [isLower_toLower_eq] at lower
    refine ⟨before, first, after, whole, fun c member => isSeparator_iff.mp ?_, lower⟩
    simpa using separators c member
  · rintro ⟨before, first, after, whole, separators, letter⟩
    have found : key.toList.find? (!isSeparator ·) = some first := by
      refine List.find?_eq_some_iff_append.mpr ⟨?_, before, after, whole, fun c member => ?_⟩
      · rw [not_isSeparator_of_isAlpha letter]
        rfl
      · rw [isSeparator_iff.mpr (separators c member)]
        rfl
    exact ⟨first.toLower, by rw [found]; rfl, by rw [isLower_toLower_eq, letter]⟩

/-- **The camel case of a key is a name** of a value exactly when the key makes a field. -/
theorem isValueName_camelCase_iff : isValueName (camelCase key) = true ↔ FieldKey key := by
  rw [isValueName_iff, isNameChar_camelCase_iff ascii, isLower_head_camelCase_iff ascii]
  exact ⟨fun ⟨characters, start⟩ => ⟨characters, start⟩, fun valid => ⟨valid.characters, valid.start⟩⟩

end Key

/-! ### The field of a key -/

theorem fieldName_of_ne {key : String} (other : key ≠ "type") :
    fieldName key = if camelCase key ∈ reservedWords then camelCase key ++ "_" else camelCase key :=
  if_neg other

theorem fieldName_type : fieldName "type" = "eventType" := if_pos rfl

/-- Reserved words have no underscore, and with one they are still names. -/
theorem reservedWords_plain : ∀ word ∈ reservedWords, '_' ∉ word.toList ∧
    isValueName word = true ∧ isValueName (word ++ "_") = true := by
  decide +kernel

/-- The field of a key is a name when its camel case is. -/
theorem isValueName_fieldName (key : String) :
    isValueName (fieldName key) = isValueName (camelCase key) := by
  by_cases isType : key = "type"
  · subst isType
    decide +kernel
  · rw [fieldName_of_ne isType]
    split
    · next reserved =>
      obtain ⟨_, plain, marked⟩ := reservedWords_plain _ reserved
      rw [plain, marked]
    · rfl

/-- **The underscore of a field** tells that its name would be reserved without. -/
theorem underscore_mem_fieldName_iff {key : String} :
    '_' ∈ (fieldName key).toList ↔ key ≠ "type" ∧ camelCase key ∈ reservedWords := by
  by_cases isType : key = "type"
  · subst isType
    simp [fieldName_type]
  · rw [fieldName_of_ne isType]
    split
    · next reserved => simp [isType, reserved]
    · next free => simp [isType, free, underscore_not_mem_camelCase]

/-- No field has a reserved name. -/
theorem fieldName_not_reserved (key : String) : fieldName key ∉ reservedWords := by
  by_cases isType : key = "type"
  · subst isType
    decide +kernel
  · rw [fieldName_of_ne isType]
    split
    · intro member
      obtain ⟨plain, _⟩ := reservedWords_plain _ member
      simp at plain
    · assumption

/-- The field `eventType` is that of the key `type`, and of the keys in camel case `eventType`. -/
theorem fieldName_eq_eventType_iff {key : String} (other : key ≠ "type") :
    fieldName key = "eventType" ↔ camelCase key = "eventType" := by
  rw [fieldName_of_ne other]
  split
  · next reserved =>
    constructor
    · intro same
      have underscore : '_' ∈ (camelCase key ++ "_").toList := by simp
      rw [same] at underscore
      exact absurd underscore (by decide)
    · intro same
      rw [same] at reserved
      exact absurd reserved (by decide)
  · rfl

/-- **Other keys give one field** when their camel cases are the same: the underscore of a reserved
name does not make it the name of another key. -/
theorem fieldName_eq_iff_of_ne {first second : String} (other : first ≠ "type")
    (other' : second ≠ "type") :
    fieldName first = fieldName second ↔ camelCase first = camelCase second := by
  constructor
  · intro same
    have both := congrArg ('_' ∈ ·.toList) same
    rw [eq_iff_iff, underscore_mem_fieldName_iff, underscore_mem_fieldName_iff,
      and_iff_right other, and_iff_right other'] at both
    rw [fieldName_of_ne other, fieldName_of_ne other'] at same
    by_cases reserved : camelCase first ∈ reservedWords
    · rw [if_pos reserved, if_pos (both.mp reserved)] at same
      exact (String.append_left_inj _).mp same
    · rwa [if_neg reserved, if_neg fun member => reserved (both.mpr member)] at same
  · intro same
    rw [fieldName_of_ne other, fieldName_of_ne other', same]

/-- **Two different keys give one field** when their camel cases are the same and none of them is
`type`, or one of them is `type` and the camel case of the other is `eventType`. -/
theorem fieldName_eq_iff {first second : String} (different : first ≠ second) :
    fieldName first = fieldName second ↔
      (first ≠ "type" ∧ second ≠ "type" ∧ camelCase first = camelCase second) ∨
        (first = "type" ∧ camelCase second = "eventType") ∨
          (second = "type" ∧ camelCase first = "eventType") := by
  by_cases isType : first = "type"
  · subst isType
    rw [fieldName_type, eq_comm, fieldName_eq_eventType_iff different.symm]
    simp [different.symm]
  · by_cases isType' : second = "type"
    · subst isType'
      rw [fieldName_type, fieldName_eq_eventType_iff isType]
      simp [isType]
    · rw [fieldName_eq_iff_of_ne isType isType']
      simp [isType, isType']

end Elm

/-! ### The fields of a schema -/

/-- **Which keys make fields, and which of them clash.** Under an ASCII key whose type resolves a
field can be declared exactly when the key is one of letters, digits and separators that starts with
a letter. Its name is that of a value and not reserved. Two keys clash exactly when they have the
same camel case, but for the key `type`, which clashes with `eventType`; the underscore behind a
reserved name marks that name and no other. -/
theorem fields_of_keys (schema : Schema) :
    (∀ {key : String} {decl : FieldDecl} {type : FieldType}, (∀ c ∈ key.toList, c.toNat < 128) →
      schema.parseType decl.typeText = .ok type →
      ((∃ field, Field.resolve schema key decl = .ok field) ↔ FieldKey key)) ∧
    (∀ {key : String} {decl : FieldDecl} {field : Field},
      Field.resolve schema key decl = .ok field →
      Elm.isValueName field.name = true ∧ field.name ∉ Elm.reservedWords ∧
        ('_' ∈ field.name.toList ↔ key ≠ "type" ∧ Elm.camelCase key ∈ Elm.reservedWords)) ∧
    ∀ {first second : String} {decl decl' : FieldDecl} {field field' : Field}, first ≠ second →
      Field.resolve schema first decl = .ok field →
      Field.resolve schema second decl' = .ok field' →
      (field.name = field'.name ↔
        (first ≠ "type" ∧ second ≠ "type" ∧ Elm.camelCase first = Elm.camelCase second) ∨
          (first = "type" ∧ Elm.camelCase second = "eventType") ∨
            (second = "type" ∧ Elm.camelCase first = "eventType")) := by
  refine ⟨?_, ?_, ?_⟩
  · intro key decl type ascii parsed
    rw [← Elm.isValueName_camelCase_iff ascii, ← Elm.isValueName_fieldName]
    constructor
    · rintro ⟨field, resolved⟩
      exact (Field.resolve_eq_ok_iff.mp resolved).1
    · exact fun valid => ⟨_, Field.resolve_eq_ok_iff.mpr ⟨valid, type, parsed, rfl⟩⟩
  · intro key decl field resolved
    obtain ⟨valid, _, _, rfl⟩ := Field.resolve_eq_ok_iff.mp resolved
    exact ⟨valid, Elm.fieldName_not_reserved key, Elm.underscore_mem_fieldName_iff⟩
  · intro first second decl decl' field field' different resolved resolved'
    obtain ⟨_, _, _, rfl⟩ := Field.resolve_eq_ok_iff.mp resolved
    obtain ⟨_, _, _, rfl⟩ := Field.resolve_eq_ok_iff.mp resolved'
    exact Elm.fieldName_eq_iff different

/-- Keys of an event: two that make fields, one that does not, one whose name is reserved, and two
that clash. -/
theorem event_fields_of_keys :
    ∃ schema : Schema, schema.parseType "[int]" = .ok (.list .int) ∧
      FieldKey "m.relates_to" ∧ ¬ FieldKey "_2fa" ∧
      (∃ field, Field.resolve schema "alias" ⟨"[int]", .now⟩ = .ok field ∧ field.name = "alias_" ∧
        Elm.isValueName field.name = true ∧ field.name ∉ Elm.reservedWords) ∧
      ∃ field field', Field.resolve schema "type" ⟨"[int]", .required⟩ = .ok field ∧
        Field.resolve schema "event_type" ⟨"[int]", .never⟩ = .ok field' ∧
          field.name = field'.name := by
  let schema : Schema := ⟨"s", "1", .empty⟩
  have parsed : schema.parseType "[int]" = .ok (.list .int) := by decide +kernel
  have made : Field.resolve schema "m.relates_to" ⟨"[int]", .required⟩ =
      .ok ⟨"m.relates_to", "mRelatesTo", .list .int, .required⟩ := by decide +kernel
  have refused : Field.resolve schema "_2fa" ⟨"[int]", .required⟩ = .error (.notAFieldName "_2fa") := by
    decide +kernel
  have reserved : Field.resolve schema "alias" ⟨"[int]", .now⟩ =
      .ok ⟨"alias", "alias_", .list .int, .now⟩ := by decide +kernel
  have named : Field.resolve schema "type" ⟨"[int]", .required⟩ =
      .ok ⟨"type", "eventType", .list .int, .required⟩ := by decide +kernel
  have clashes : Field.resolve schema "event_type" ⟨"[int]", .never⟩ =
      .ok ⟨"event_type", "eventType", .list .int, .never⟩ := by decide +kernel
  have same : Elm.camelCase "event_type" = "eventType" := by decide +kernel
  have ascii : ∀ {key : String}, (key.toList.all fun c => decide (c.toNat < 128)) = true →
      ∀ c ∈ key.toList, c.toNat < 128 :=
    fun all c member => of_decide_eq_true (List.all_eq_true.mp all c member)
  obtain ⟨makes, valid, clash⟩ := fields_of_keys schema
  refine ⟨schema, parsed, (makes (ascii (by decide +kernel)) parsed).mp ⟨_, made⟩, fun isKey => ?_,
    ⟨_, reserved, rfl, (valid reserved).1, (valid reserved).2.1⟩, _, _, named, clashes,
    (clash (by decide) named clashes).mpr (.inr (.inl ⟨rfl, same⟩))⟩
  have accepted : ∃ field, Field.resolve schema "_2fa" ⟨"[int]", .required⟩ = .ok field :=
    (makes (ascii (by decide +kernel)) parsed).mpr isKey
  obtain ⟨field, resolved⟩ := accepted
  rw [refused] at resolved
  cases resolved

end ElmCodec
