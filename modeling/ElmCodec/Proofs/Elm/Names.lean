/-
**The names that a module gives to what it makes of a record.**

A record with the type name `T` has the encoder `encodeT` and the decoder `tDecoder`.

* `isValueName_encoderName`, `isValueName_decoderName` — both are names of values.
* `encoderName_injective`, `decoderName_injOn` — no two types share an encoder or a decoder.
* `encoderName_eq_decoderName_iff` — **an encoder has the name of a decoder** exactly when the two
  types are `XDecoder` and `EncodeX`.
* `binder_injective`, `isValueName_binder`, `binder_not_reserved` — the variables of a function.
-/

import Mathlib.Data.List.Nodup
import ElmCodec.FieldType.Elm

namespace ElmCodec.Elm

/-! ### The characters of a name -/

section Characters

variable {name : String} {c : Char}

theorem isUpper_iff : c.isUpper = true ↔ 65 ≤ c.toNat ∧ c.toNat ≤ 90 := by
  show decide ('A'.val ≤ c.val ∧ c.val ≤ 'Z'.val) = true ↔ _
  rw [decide_eq_true_iff, UInt32.le_iff_toNat_le, UInt32.le_iff_toNat_le]
  rfl

theorem isLower_iff : c.isLower = true ↔ 97 ≤ c.toNat ∧ c.toNat ≤ 122 := by
  show (decide ('a'.val ≤ c.val) && decide (c.val ≤ 'z'.val)) = true ↔ _
  rw [Bool.and_eq_true, decide_eq_true_iff, decide_eq_true_iff, UInt32.le_iff_toNat_le,
    UInt32.le_iff_toNat_le]
  rfl

theorem toNat_toLower (upper : c.isUpper = true) : c.toLower.toNat = c.toNat + 32 := by
  have bounds := isUpper_iff.mp upper
  have lowered : c.toLower.toNat = (c.val + ('a'.val - 'A'.val)).toNat :=
    congrArg Char.toNat (dif_pos (of_decide_eq_true upper))
  rw [lowered, UInt32.toNat_add]
  show (c.toNat + 32) % 2 ^ 32 = c.toNat + 32
  omega

theorem isNameChar_of_isUpper (upper : c.isUpper = true) : isNameChar c = true := by
  show (((c.isUpper || c.isLower) || c.isDigit) || c == '_') = true
  rw [upper]
  rfl

theorem isNameChar_of_isLower (lower : c.isLower = true) : isNameChar c = true := by
  show (((c.isUpper || c.isLower) || c.isDigit) || c == '_') = true
  rw [lower, Bool.or_true]
  rfl

theorem isNameChar_of_isDigit (digit : c.isDigit = true) : isNameChar c = true := by
  show ((c.isAlpha || c.isDigit) || c == '_') = true
  rw [digit, Bool.or_true]
  rfl

/-- Capitals that are one letter in lower case are one capital. -/
theorem toLower_injOn {first second : Char} (firstUpper : first.isUpper = true)
    (secondUpper : second.isUpper = true) (same : first.toLower = second.toLower) :
    first = second := by
  have codes := congrArg Char.toNat same
  rw [toNat_toLower firstUpper, toNat_toLower secondUpper] at codes
  exact Char.toNat_inj.mp (by omega)

theorem isLower_toLower (upper : c.isUpper = true) : c.toLower.isLower = true := by
  have bounds := isUpper_iff.mp upper
  rw [isLower_iff, toNat_toLower upper]
  omega

/-- A type name is a capital and name characters; its first letter alone changes in lower case. -/
theorem typeName_cases (valid : isTypeName name = true) :
    ∃ first rest, name.toList = first :: rest ∧ first.isUpper = true ∧
      (∀ c ∈ rest, isNameChar c = true) ∧ (lowerFirst name).toList = first.toLower :: rest := by
  unfold isTypeName at valid
  rw [lowerFirst, String.toList_ofList]
  cases letters : name.toList with
  | nil => rw [letters] at valid; cases valid
  | cons first rest =>
    rw [letters, isNameFrom, Bool.and_eq_true, List.all_eq_true] at valid
    refine ⟨first, rest, rfl, valid.1, valid.2, ?_⟩
    have bounds := isUpper_iff.mp valid.1
    rw [lowerFirstChars, Text.lower_of_ascii (by omega)]
    rfl

theorem isNameChar_of_mem_typeName (valid : isTypeName name = true) (member : c ∈ name.toList) :
    isNameChar c = true := by
  obtain ⟨first, rest, letters, upper, others, _⟩ := typeName_cases valid
  rw [letters, List.mem_cons] at member
  rcases member with rfl | later
  · exact isNameChar_of_isUpper upper
  · exact others c later

theorem isNameChar_of_mem_valueName (valid : isValueName name = true) (member : c ∈ name.toList) :
    isNameChar c = true := by
  unfold isValueName at valid
  cases letters : name.toList with
  | nil => rw [letters] at valid; cases valid
  | cons first rest =>
    rw [letters, isNameFrom, Bool.and_eq_true, List.all_eq_true] at valid
    rw [letters, List.mem_cons] at member
    rcases member with rfl | later
    · exact isNameChar_of_isLower valid.1
    · exact valid.2 c later

/-- A character that is none of names is not in the name of a type. -/
theorem not_mem_typeName (other : isNameChar c = false) (valid : isTypeName name = true) :
    c ∉ name.toList := by
  intro member
  rw [isNameChar_of_mem_typeName valid member] at other
  cases other

/-- A character that is none of names is not in the name of a value. -/
theorem not_mem_valueName (other : isNameChar c = false) (valid : isValueName name = true) :
    c ∉ name.toList := by
  intro member
  rw [isNameChar_of_mem_valueName valid member] at other
  cases other

/-- A character of a text other than a point is in one of its segments. -/
theorem exists_segment_of_mem {cs : List Char} (member : c ∈ cs) (notPoint : c ≠ '.') :
    ∃ segment ∈ cs.splitOn '.', c ∈ segment := by
  have whole : ['.'].intercalate (cs.splitOn '.') = cs := List.intercalate_splitOn '.'
  rw [← whole] at member
  generalize cs.splitOn '.' = pieces at member
  induction pieces with
  | nil => cases member
  | cons first rest ih =>
    cases rest with
    | nil =>
      rw [List.intercalate_singleton] at member
      exact ⟨first, List.mem_cons_self, member⟩
    | cons second rest =>
      rw [List.intercalate_cons_cons, List.mem_append, List.mem_append, List.mem_singleton]
        at member
      rcases member with (inFirst | point) | later
      · exact ⟨first, List.mem_cons_self, inFirst⟩
      · exact absurd point notPoint
      · obtain ⟨segment, inside, member⟩ := ih later
        exact ⟨segment, List.mem_cons_of_mem _ inside, member⟩

/-- A dotted name has no other characters than points and those of names. -/
theorem not_mem_moduleName (other : isNameChar c = false) (notPoint : c ≠ '.')
    (valid : isModuleName name = true) : c ∉ name.toList := by
  intro member
  obtain ⟨segment, inside, found⟩ := exists_segment_of_mem member notPoint
  have absent := not_mem_typeName other
    (List.all_eq_true.mp valid (String.ofList segment) (List.mem_map_of_mem inside))
  rw [String.toList_ofList] at absent
  exact absent found

/-- A character that is its own upper case is in the type name of a record if it is in the name of
the record and no point. -/
theorem mem_displayName (same : Text.upper c = [c]) (notPoint : c ≠ '.')
    (member : c ∈ name.toList) : c ∈ (displayName name).toList := by
  unfold displayName
  split
  · obtain ⟨segment, inside, found⟩ := exists_segment_of_mem member notPoint
    rw [String.toList_join, List.flatMap_map, List.mem_flatMap]
    refine ⟨String.ofList segment, List.mem_map_of_mem inside, ?_⟩
    rw [capitalize, String.toList_ofList, String.toList_ofList]
    cases segment with
    | nil => cases found
    | cons first rest =>
      rw [capitalizeChars, List.mem_append]
      rcases List.mem_cons.mp found with rfl | later
      · exact .inl (by rw [same]; exact List.mem_cons_self)
      · exact .inr later
  · exact member

theorem typeName_ne_nil (valid : isTypeName name = true) : name.toList ≠ [] := by
  obtain ⟨first, rest, letters, _⟩ := typeName_cases valid
  rw [letters]
  exact List.cons_ne_nil first rest

theorem valueName_ne_nil (valid : isValueName name = true) : name.toList ≠ [] := by
  intro empty
  rw [isValueName, empty] at valid
  cases valid

end Characters

/-! ### Encoders and decoders -/

section Helpers

variable {first second : String}

theorem toList_encoderName (name : String) :
    (encoderName name).toList = "encode".toList ++ name.toList := String.toList_append

theorem toList_decoderName (name : String) :
    (decoderName name).toList = (lowerFirst name).toList ++ "Decoder".toList :=
  String.toList_append

theorem isValueName_encoderName (valid : isTypeName first = true) :
    isValueName (encoderName first) = true := by
  rw [isValueName, toList_encoderName]
  show (true && ("ncode".toList ++ first.toList).all isNameChar) = true
  rw [Bool.true_and, List.all_append, Bool.and_eq_true]
  exact ⟨rfl, List.all_eq_true.mpr fun c member => isNameChar_of_mem_typeName valid member⟩

theorem isValueName_decoderName (valid : isTypeName first = true) :
    isValueName (decoderName first) = true := by
  obtain ⟨letter, rest, _, upper, others, lowered⟩ := typeName_cases valid
  rw [isValueName, toList_decoderName, lowered, List.cons_append, isNameFrom, Bool.and_eq_true,
    List.all_append, Bool.and_eq_true]
  exact ⟨isLower_toLower upper, List.all_eq_true.mpr others, rfl⟩

theorem encoderName_injective : Function.Injective encoderName := by
  intro first second same
  have letters := congrArg String.toList same
  rw [toList_encoderName, toList_encoderName] at letters
  exact String.toList_inj.mp (List.append_cancel_left letters)

theorem decoderName_injOn (firstValid : isTypeName first = true)
    (secondValid : isTypeName second = true) (same : decoderName first = decoderName second) :
    first = second := by
  obtain ⟨letter, rest, letters, upper, _, lowered⟩ := typeName_cases firstValid
  obtain ⟨letter', rest', letters', upper', _, lowered'⟩ := typeName_cases secondValid
  have equal := congrArg String.toList same
  rw [toList_decoderName, toList_decoderName, lowered, lowered'] at equal
  obtain ⟨sameLetter, sameRest⟩ := List.cons.inj (List.append_cancel_right equal)
  rw [← String.toList_inj, letters, letters', toLower_injOn upper upper' sameLetter, sameRest]

/-- A name of a type is no name of a value. -/
theorem typeName_ne_valueName (type : isTypeName first = true) (value : isValueName second = true) :
    first ≠ second := by
  rintro rfl
  obtain ⟨letter, rest, letters, upper, _⟩ := typeName_cases type
  rw [isValueName, letters, isNameFrom, Bool.and_eq_true, isLower_iff] at value
  rw [isUpper_iff] at upper
  omega

/-- **An encoder has the name of a decoder** exactly when the types are `XDecoder` and `EncodeX`. -/
theorem encoderName_eq_decoderName_iff (firstValid : isTypeName first = true)
    (secondValid : isTypeName second = true) :
    encoderName first = decoderName second ↔
      ∃ x, first = x ++ "Decoder" ∧ second = "Encode" ++ x := by
  obtain ⟨letter, rest, letters, upper, _, lowered⟩ := typeName_cases secondValid
  rw [← String.toList_inj, toList_encoderName, toList_decoderName, lowered]
  constructor
  · intro same
    obtain ⟨sameLetter, sameRest⟩ :=
      List.cons.inj (show 'e' :: ("ncode".toList ++ first.toList) =
        letter.toLower :: (rest ++ "Decoder".toList) from same)
    have capital : letter = 'E' := toLower_injOn upper (by decide) sameLetter.symm
    rcases List.append_eq_append_iff.mp sameRest with ⟨middle, long, tail⟩ | ⟨middle, short, tail⟩
    · refine ⟨String.ofList middle, ?_, ?_⟩
      · rw [← String.toList_inj, String.toList_append, String.toList_ofList, tail]
      · rw [← String.toList_inj, String.toList_append, String.toList_ofList (l := middle), letters,
          long, capital]
        rfl
    · -- What is left of `ncode` starts with the `D` of `Decoder`, so nothing is left.
      have empty : middle = [] := by
        cases middle with
        | nil => rfl
        | cons c more =>
          have head : c = 'D' := (List.cons.inj tail).1.symm
          have inside : 'D' ∈ "ncode".toList := by
            rw [short, head]
            exact List.mem_append_right _ List.mem_cons_self
          exact absurd inside (by decide)
      rw [empty, List.append_nil] at short
      rw [empty, List.nil_append] at tail
      refine ⟨"", ?_, ?_⟩
      · rw [← String.toList_inj, ← tail, String.toList_append]
        rfl
      · rw [← String.toList_inj, letters, capital, ← short]
        rfl
  · rintro ⟨x, rfl, rfl⟩
    rw [String.toList_append] at letters ⊢
    obtain ⟨rfl, rfl⟩ := List.cons.inj (show 'E' :: ("ncode".toList ++ x.toList) = _ from letters)
    rw [← List.append_assoc]
    rfl

end Helpers

/-! ### The variables of a function -/

theorem binder_eq (index : Nat) :
    (∃ bound : index < letters.length, binder index = String.singleton letters[index]) ∨
      letters.length ≤ index ∧ binder index = "v" ++ toString index := by
  by_cases bound : index < letters.length
  · left
    refine ⟨bound, ?_⟩
    rw [binder, List.getElem?_eq_getElem bound]
  · right
    refine ⟨Nat.not_lt.mp bound, ?_⟩
    rw [binder, List.getElem?_eq_none (Nat.not_lt.mp bound)]

theorem toList_indexed (index : Nat) :
    ("v" ++ toString index).toList = 'v' :: Nat.toDigits 10 index := by
  rw [String.toList_append, Nat.toString_eq_ofList_toDigits]
  exact congrArg ('v' :: ·) String.toList_ofList

theorem binder_injective : Function.Injective binder := by
  intro first second same
  have single : ∀ (c : Char) (index : Nat), String.singleton c ≠ "v" ++ toString index := by
    intro c index equal
    have chars := congrArg String.toList equal
    rw [toList_indexed, String.toList_singleton] at chars
    exact Nat.toDigits_ne_nil (List.cons.inj chars).2.symm
  rcases binder_eq first with ⟨bound, named⟩ | ⟨_, named⟩ <;>
    rcases binder_eq second with ⟨bound', named'⟩ | ⟨_, named'⟩ <;> rw [named, named'] at same
  · have letter : letters[first] = letters[second] := String.singleton_inj.mp same
    exact (List.Nodup.getElem_inj_iff (by decide +kernel)).mp letter
  · exact absurd same (single _ _)
  · exact absurd same.symm (single _ _)
  · have chars := congrArg String.toList same
    rw [toList_indexed, toList_indexed] at chars
    rw [← Nat.ofDigitChars_ten_toDigits (n := first), (List.cons.inj chars).2,
      Nat.ofDigitChars_ten_toDigits]

theorem isValueName_binder (index : Nat) : isValueName (binder index) = true := by
  rcases binder_eq index with ⟨bound, named⟩ | ⟨_, named⟩
  · have lower : letters.all Char.isLower = true := rfl
    rw [named, isValueName, String.toList_singleton, isNameFrom, List.all_nil, Bool.and_true]
    exact List.all_eq_true.mp lower _ (List.getElem_mem bound)
  · rw [named, isValueName, toList_indexed, isNameFrom, Bool.and_eq_true, List.all_eq_true]
    exact ⟨by decide, fun c member =>
      isNameChar_of_isDigit (Nat.isDigit_of_mem_toDigits (by decide) (by decide) member)⟩

theorem binder_not_reserved (index : Nat) : binder index ∉ reservedWords := by
  have shape : ∀ word ∈ reservedWords, 2 ≤ word.toList.length ∧ word.toList.head? ≠ some 'v' := by
    decide +kernel
  intro member
  obtain ⟨long, start⟩ := shape _ member
  rcases binder_eq index with ⟨bound, named⟩ | ⟨_, named⟩
  · rw [named, String.toList_singleton, List.length_singleton] at long
    exact absurd long (by decide)
  · rw [named, toList_indexed] at start
    exact start rfl

end ElmCodec.Elm
