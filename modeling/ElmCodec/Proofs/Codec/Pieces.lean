/-
**The pieces of any record, with fields or without.**

A record without fields has pieces of two or three lines: `type alias Unit =` and `{}`, an encoder
of no entries, a decoder that always succeeds.

* `readDefinition`, `readEncoding` — what a type and an encoder say.
* `readMade` — the constructor before the record literal of a decoder, of which only the first lines
  are looked at.
* `Record.readDefinition_typeDefinition`, `Record.readEncoding_encoder`,
  `Record.readMade_unlines` — **the pieces are read back**.
-/

import ElmCodec.Proofs.Codec.Alignment

namespace ElmCodec

open Reading

namespace Reading

/-! ### Reading -/

/-- The type of a record. -/
def readDefinition (text : String) : Option TypeText :=
  match linesOf (afterComment text) with
  | [head, line] =>
    match between "type alias " " =" head with
    | some name => if line = "    \x7b\x7d" then some ⟨name, none, []⟩ else none
    | none =>
      (after "type " head).bind fun name =>
        (between "    = " " \x7b\x7d" line).map fun constructor => ⟨name, some constructor, []⟩
  | _ => readType text

/-- The encoder of a record. -/
def readEncoding (text : String) : Option EncoderText :=
  match linesOf text with
  | [signature, head, function] =>
    (readSignature signature).bind fun signed =>
      (before " -> E.Value" signed.2).bind fun typeName =>
        (between (signed.1 ++ " ") " =" head).bind fun pattern =>
          if function = "    maybeObject []" then some ⟨signed.1, typeName, pattern, []⟩ else none
  | _ => readEncoder text

/-- The constructor before a record literal, if there is one. -/
def readConstructor (made : String) : Option (Option String) :=
  match between "\x7b" "\x7d" made with
  | some _ => some none
  | none => (between " \x7b" "\x7d" (splitName made).2).map fun _ => some (splitName made).1

/-- What stands in the parentheses around a text, or the text if there are none. -/
def unparenthesized (text : String) : String := (between "(" ")" text).getD text

/-- The constructor before the record literal of a decoder, if there is one. -/
def readMade (text : String) : Option (Option String) :=
  match linesOf text with
  | _ :: _ :: function :: rest =>
    match after "    D.succeed " function with
    | some made => readConstructor (unparenthesized made)
    | none =>
      match rest with
      | _ :: body :: _ => (after "            " body).bind readConstructor
      | _ => none
  | _ => none

/-- The parentheses of an argument are taken away again. -/
theorem unparenthesized_argument {text : String} (plain : after "(" text = none) :
    unparenthesized (Elm.argument text) = text := by
  unfold Elm.argument
  split
  · rw [unparenthesized, between_append, Option.getD_some]
  · rw [unparenthesized, between, plain]
    rfl

theorem readDefinition_of_long {text : String}
    (long : 2 < (linesOf (afterComment text)).length) : readDefinition text = readType text := by
  unfold readDefinition
  split
  · next lines =>
    rw [lines] at long
    exact absurd long (Nat.lt_irrefl 2)
  · rfl

theorem readEncoding_of_long {text : String} (long : 3 < (linesOf text).length) :
    readEncoding text = readEncoder text := by
  unfold readEncoding
  split
  · next lines =>
    rw [lines] at long
    exact absurd long (Nat.lt_irrefl 3)
  · rfl

/-- The braces of a record literal show whether a constructor stands before it. -/
theorem readConstructor_append (constructor : Option String) (inside : String)
    (valid : ∀ name ∈ constructor, Elm.isTypeName name = true) :
    readConstructor (constructorText constructor ++ ("\x7b" ++ inside ++ "\x7d")) =
      some constructor := by
  cases constructor with
  | none => rw [constructorText, String.empty_append, readConstructor, between_append]
  | some name =>
    have typeName := valid name rfl
    have letters : ∀ c ∈ name.toList, Elm.isNameChar c = true := fun c member =>
      Elm.isNameChar_of_mem_typeName typeName member
    have notLiteral :
        between "\x7b" "\x7d" (name ++ " " ++ ("\x7b" ++ inside ++ "\x7d")) = none := by
      rw [between, String.append_assoc, after_name_eq_none letters
        (Elm.typeName_ne_nil typeName) (by decide) (by decide)]
      rfl
    have whole : name ++ " " ++ ("\x7b" ++ inside ++ "\x7d") =
        name ++ (" \x7b" ++ inside ++ "\x7d") := by
      rw [← String.toList_inj]
      simp only [String.toList_append, List.append_assoc]
      rfl
    have split := splitName_append name (" \x7b" ++ inside ++ "\x7d") letters (by
        rw [String.append_assoc, String.toList_append]
        rintro c ⟨⟩
        rfl)
    rw [constructorText, readConstructor, notLiteral, whole, split]
    simp only [between_append, Option.map_some]

end Reading

/-! ### The pieces of a record -/

namespace Record

variable {schema : Schema} {record : Record}
variable (typeNames : schema.WellNamed)
variable (typed : Elm.isTypeName record.typeName = true)
variable (inScope : ∀ field ∈ record.fields, field.InScope schema)

include typed in
theorem constructor?_valid : ∀ name ∈ record.constructor?, Elm.isTypeName name = true := by
  unfold constructor?
  split
  · intro name same
    cases same
    exact typed
  · exact fun _ => nofun

/-- A list with one item a line has a line for each item. -/
theorem length_leadLines (indent opening : String) (lines : List String) :
    (leadLines indent opening lines).length = lines.length := by
  cases lines with
  | nil => rfl
  | cons first rest => rw [leadLines, List.length_cons, List.length_map, List.length_cons]

theorem length_typeLines (inhabited : record.fields ≠ []) : 2 < record.typeLines.length := by
  have noFields : record.fields.isEmpty = false := List.isEmpty_eq_false_iff.mpr inhabited
  have some := List.length_pos_of_ne_nil inhabited
  rw [typeLines, noFields]
  split <;>
  · simp only [Bool.false_eq_true, if_false, List.length_cons, List.length_append, List.cons_append,
      length_leadLines, List.length_map, List.length_nil]
    omega

theorem length_encoderLines (inhabited : record.fields ≠ []) : 3 < record.encoderLines.length := by
  have noFields : record.fields.isEmpty = false := List.isEmpty_eq_false_iff.mpr inhabited
  have some := List.length_pos_of_ne_nil inhabited
  rw [encoderLines, noFields]
  simp only [Bool.false_eq_true, if_false, List.length_cons, List.length_append, length_leadLines,
    List.length_map, List.length_nil]
  omega

include typeNames typed inScope in
/-- **The type of a record** has its fields, in order, and a constructor if it is no alias. -/
theorem readDefinition_typeDefinition (clean : hasCommentDelimiter record.description = false) :
    readDefinition record.typeDefinition = some ⟨record.typeName, record.constructor?,
      record.fields.map fun field => (field.name, field.annotation)⟩ := by
  have lines : linesOf (afterComment record.typeDefinition) = record.typeLines := by
    rw [afterComment_typeDefinition clean,
      linesOf_unlines_self (oneLine_typeLines typeNames typed inScope)]
  by_cases inhabited : record.fields = []
  · have noFields : record.fields.isEmpty = true := List.isEmpty_iff.mpr inhabited
    rw [readDefinition, lines, typeLines, noFields, inhabited, constructor?]
    cases record.selfReferencing with
    | false => simp only [Bool.false_eq_true, if_false, if_true, between_append, List.map_nil]
    | true =>
      simp only [if_true, between_alias typed, after_append, between_append, Option.bind_some,
        Option.map_some, List.map_nil]
  · rw [readDefinition_of_long (by rw [lines]; exact length_typeLines inhabited),
      readType_typeDefinition typeNames typed inScope inhabited clean, constructor?]

include typeNames typed inScope in
/-- **The encoder of a record** has its keys, in order. -/
theorem readEncoding_encoder :
    readEncoding record.encoder = some ⟨record.encoderName, record.typeName, record.pattern,
      record.fields.map fun field => (field.key, field.encoder)⟩ := by
  have lines : linesOf record.encoder = record.encoderLines :=
    linesOf_unlines_self (oneLine_encoderLines typeNames typed inScope)
  by_cases inhabited : record.fields = []
  · have noFields : record.fields.isEmpty = true := List.isEmpty_iff.mpr inhabited
    have signature := readSignature_append
      (show Elm.isValueName record.encoderName = true from Elm.isValueName_encoderName typed)
      (record.typeName ++ " -> E.Value")
    rw [← String.append_assoc] at signature
    rw [readEncoding, lines, encoderLines, noFields, inhabited]
    simp only [if_true, List.cons_append, List.nil_append, signature, Option.bind_some,
      before_append, between_append, List.map_nil]
  · rw [readEncoding_of_long (by rw [lines]; exact length_encoderLines inhabited),
      readEncoder_encoder typeNames typed inScope inhabited]

/-! ### Decoders -/

/-- A record literal stands after the constructor, if there is one. -/
theorem exists_construct (record : Record) (values : List String) :
    ∃ inside, record.construct values =
      constructorText record.constructor? ++ ("\x7b" ++ inside ++ "\x7d") := by
  obtain ⟨inside, literal⟩ : ∃ inside, (if record.fields.isEmpty then "\x7b\x7d"
      else "\x7b " ++ String.intercalate ", " (record.fields.zipWith
        (fun field value => field.name ++ " = " ++ value) values) ++ " \x7d") =
      "\x7b" ++ inside ++ "\x7d" := by
    split
    · exact ⟨"", rfl⟩
    · generalize String.intercalate ", " _ = assignments
      refine ⟨" " ++ assignments ++ " ", ?_⟩
      rw [← String.toList_inj]
      simp only [String.toList_append, List.append_assoc]
      rfl
  refine ⟨inside, ?_⟩
  rw [construct, literal, constructor?]
  cases record.selfReferencing with
  | false => exact String.empty_append.symm
  | true => rfl

include typed in
theorem readConstructor_construct (values : List String) :
    readConstructor (record.construct values) = some record.constructor? := by
  obtain ⟨inside, literal⟩ := record.exists_construct values
  rw [literal, readConstructor_append _ _ (constructor?_valid typed)]

include typed in
/-- No parenthesis stands before a record literal. -/
theorem after_parenthesis_construct (values : List String) :
    after "(" (record.construct values) = none := by
  obtain ⟨inside, literal⟩ := record.exists_construct values
  rw [literal]
  cases constructor : record.constructor? with
  | none =>
    rw [constructorText, String.empty_append, String.append_assoc]
    exact after_append_eq_none (by decide) (by decide) _
  | some name =>
    have typeName := constructor?_valid typed name constructor
    rw [constructorText, String.append_assoc]
    exact after_name_eq_none (fun c member => Elm.isNameChar_of_mem_typeName typeName member)
      (Elm.typeName_ne_nil typeName) (by decide) (by decide) _

/-- The decoders of the fields follow the other lines. -/
theorem linesWith_eq (record : Record) (fragments : List String) :
    record.linesWith fragments = record.linesWith [] ++
      if record.fields.isEmpty then []
      else fragments.map fun decoder => "        " ++ Elm.argument decoder := by
  unfold linesWith decoderBody
  split
  · rw [List.append_nil]
  · rw [List.map_nil, List.append_nil, List.append_assoc]

include typed inScope in
/-- The lines before the decoders of the fields are lines. -/
theorem oneLine_linesWith_nil : ∀ line ∈ record.linesWith [], OneLine line := by
  by_cases inhabited : record.fields = []
  · have decoder : OneLine record.decoderName :=
      oneLine_of_isValueName (Elm.isValueName_decoderName typed)
    have typeName := oneLine_of_isTypeName typed
    have made : OneLine (record.construct []) := by
      rw [construct, List.isEmpty_iff.mpr inhabited, if_pos rfl]
      split
      · exact oneLine_append.mpr ⟨oneLine_append.mpr ⟨typeName, by decide⟩, by decide⟩
      · decide
    rw [linesWith, decoderBody, List.isEmpty_iff.mpr inhabited]
    simp only [if_true, List.forall_mem_append, List.forall_mem_cons, oneLine_append]
    exact ⟨⟨⟨⟨decoder, by decide⟩, typeName⟩, ⟨decoder, by decide⟩, List.forall_mem_nil _⟩,
      ⟨by decide, oneLine_argument made⟩, List.forall_mem_nil _⟩
  · exact oneLine_linesWith typed inScope inhabited (List.forall_mem_nil _)

include typed inScope in
/-- **The constructor in a decoder**, whatever the decoders of the fields are. -/
theorem readMade_unlines (fragments : List String) :
    readMade (unlines (record.linesWith fragments)) = some record.constructor? := by
  rw [readMade, record.linesWith_eq fragments, unlines_append,
    linesOf_unlines (oneLine_linesWith_nil typed inScope), linesWith, decoderBody]
  by_cases inhabited : record.fields = []
  · rw [List.isEmpty_iff.mpr inhabited]
    simp only [if_true, List.cons_append, List.nil_append, after_append]
    rw [unparenthesized_argument (after_parenthesis_construct typed []),
      readConstructor_construct typed]
  · have noSuccess : after "    D.succeed " ("    " ++ combinator record.arity) = none := by
      rw [show "    D.succeed " = "    " ++ "D.succeed " from rfl, after_append_append]
      unfold combinator
      split
      · rfl
      · rw [after, String.toList_append]
        rfl
    rw [List.isEmpty_eq_false_iff.mpr inhabited]
    simp only [Bool.false_eq_true, if_false, List.cons_append, List.nil_append, noSuccess,
      after_append, Option.bind_some]
    exact readConstructor_construct typed record.binders

end Record

end ElmCodec
