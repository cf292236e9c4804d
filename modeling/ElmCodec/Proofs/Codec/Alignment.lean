/-
**The pieces of a record say the same about its fields.**

The decoder of a record names a variable for each field, assigns the variables to the fields in a
record literal and lists the decoders of the fields as arguments. All of this goes by position, and
the position of a field is that of its key among the keys of the record.

* `Record.readType_typeDefinition`, `Record.readEncoder_encoder`, `Record.readDecoder_unlines` — the
  three pieces, read from their texts.
* `Record.binders_nodup` — no two variables share a name.
* `Record.decoder_aligned` — **the decoder of a record** makes of the i-th argument the i-th field.
-/

import ElmCodec.Proofs.Codec.Lines
import ElmCodec.Proofs.Reading.Pieces

namespace ElmCodec

open Reading

/-! ### The pieces, read from their texts -/

namespace Record

variable {schema : Schema} {record : Record}
variable (typeNames : schema.WellNamed)
variable (typed : Elm.isTypeName record.typeName = true)
variable (inScope : ∀ field ∈ record.fields, field.InScope schema)
variable (inhabited : record.fields ≠ [])

/-- The doc comment of a type is no part of it. -/
theorem afterComment_typeDefinition (clean : hasCommentDelimiter record.description = false) :
    afterComment record.typeDefinition = unlines record.typeLines := by
  rw [typeDefinition, docComment]
  split
  · have start : after "\x7b-" (unlines record.typeLines) = none := by
      rw [after, unlines, typeLines]
      split <;>
      · rw [List.map_cons, String.join_cons]
        simp only [String.toList_append, List.append_assoc]
        rfl
    rw [String.empty_append, afterComment, start]
  · exact afterComment_append clean _

include typed in
/-- No type is named `alias …`, since there is no space in a type name. -/
theorem after_alias : after "alias " record.typeName = none :=
  after_eq_none fun starts => Elm.not_mem_typeName rfl typed (starts.subset (by decide : ' ' ∈ _))

include typed in
theorem between_alias : between "type alias " " =" ("type " ++ record.typeName) = none := by
  rw [between, show "type alias " = "type " ++ "alias " from rfl, after_append_append,
    after_alias typed]
  rfl

include typeNames typed inScope inhabited in
/-- **The type of a record** has its fields, in order. -/
theorem readType_typeDefinition (clean : hasCommentDelimiter record.description = false) :
    readType record.typeDefinition = some ⟨record.typeName,
      if record.selfReferencing then some record.typeName else none,
      record.fields.map fun field => (field.name, field.annotation)⟩ := by
  have lines := linesOf_unlines_self (oneLine_typeLines typeNames typed inScope)
  have someLines : (record.fields.map fun field => field.name ++ " : " ++ field.annotation) ≠ [] :=
    mt List.map_eq_nil_iff.mp inhabited
  have fields : (record.fields.map fun field => field.name ++ " : " ++ field.annotation).mapM
      readSignature = some (record.fields.map fun field => (field.name, field.annotation)) :=
    mapM_map_eq_some fun field member => readSignature_append (inScope field member).name _
  have noFields : record.fields.isEmpty = false := List.isEmpty_eq_false_iff.mpr inhabited
  rw [readType, afterComment_typeDefinition clean, lines, typeLines, noFields]
  cases record.selfReferencing with
  | false =>
    have body := wholeList_leadLines "    " "\x7b" "\x7d" (by decide) someLines
    simp only [Bool.false_eq_true, if_false, between_append]
    rw [show "    \x7d" = "    " ++ "\x7d" from rfl, body, Option.bind_some, fields,
      Option.map_some]
  | true =>
    have body := wholeList_leadLines "        " "\x7b" "\x7d" (by decide) someLines
    simp only [if_true, between_alias typed, List.cons_append, after_append, Option.bind_some,
      Bool.false_eq_true, if_false]
    rw [show "        \x7d" = "        " ++ "\x7d" from rfl, body, Option.bind_some, fields,
      Option.map_some]

include typeNames typed inScope inhabited in
/-- **The encoder of a record** has its keys, in order. -/
theorem readEncoder_encoder :
    readEncoder record.encoder = some ⟨record.encoderName, record.typeName, record.pattern,
      record.fields.map fun field => (field.key, field.encoder)⟩ := by
  have lines := linesOf_unlines_self (oneLine_encoderLines typeNames typed inScope)
  have noFields : record.fields.isEmpty = false := List.isEmpty_eq_false_iff.mpr inhabited
  have signature := readSignature_append
    (show Elm.isValueName record.encoderName = true from Elm.isValueName_encoderName typed)
    (record.typeName ++ " -> E.Value")
  have entries : (record.fields.map fun field =>
      "( " ++ Elm.stringLiteral field.key ++ ", " ++ field.encoder ++ " )").mapM readEntry =
      some (record.fields.map fun field => (field.key, field.encoder)) :=
    mapM_map_eq_some fun field _ => readEntry_append field.key field.encoder
  have body := wholeList_leadLines "        " "[" "]"
    (by decide) (mt List.map_eq_nil_iff.mp inhabited : (record.fields.map fun field =>
      "( " ++ Elm.stringLiteral field.key ++ ", " ++ field.encoder ++ " )") ≠ [])
  rw [← String.append_assoc] at signature
  rw [readEncoder, encoder, lines, encoderLines, noFields]
  simp only [Bool.false_eq_true, if_false, List.cons_append, List.nil_append, signature,
    Option.bind_some, before_append, between_append, if_true]
  rw [show "        ]" = "        " ++ "]" from rfl, body, Option.bind_some, entries,
    Option.map_some]

/-! ### The variables of a decoder -/

/-- **No two variables share a name.** -/
theorem binders_nodup : record.binders.Nodup :=
  List.Nodup.map Elm.binder_injective List.nodup_range

theorem length_binders (record : Record) : record.binders.length = record.fields.length := by
  rw [binders, List.length_map, List.length_range, arity]

theorem binders_valid : ∀ binder ∈ record.binders,
    Elm.isValueName binder = true ∧ binder ∉ Elm.reservedWords := by
  rw [binders, List.forall_mem_map]
  exact fun index _ => ⟨Elm.isValueName_binder index, Elm.binder_not_reserved index⟩

/-- What the record literal assigns: the i-th variable to the name of the i-th field. -/
def assignments (record : Record) : List (String × String) :=
  (record.fields.map (·.name)).zip record.binders

/-- The constructor of a record that has one. -/
def constructor? (record : Record) : Option String :=
  if record.selfReferencing then some record.typeName else none

include inhabited in
theorem assignments_ne_nil : record.assignments ≠ [] := by
  have length := record.length_binders
  obtain ⟨field, fields, same⟩ := List.exists_cons_of_ne_nil inhabited
  rw [assignments]
  intro empty
  rcases List.zip_eq_nil_iff.mp empty with names | binders
  · exact inhabited (List.map_eq_nil_iff.mp names)
  · rw [binders, same] at length
    cases length

include inhabited in
theorem construct_binders : record.construct record.binders =
    constructorText record.constructor? ++ ("\x7b " ++ String.intercalate ", "
      (record.assignments.map fun pair => pair.1 ++ " = " ++ pair.2) ++ " \x7d") := by
  have noFields : record.fields.isEmpty = false := List.isEmpty_eq_false_iff.mpr inhabited
  have pairs : record.fields.zipWith (fun field value => field.name ++ " = " ++ value)
      record.binders = record.assignments.map fun pair => pair.1 ++ " = " ++ pair.2 := by
    rw [assignments, List.zip, List.map_zipWith, List.zipWith_map_left]
  rw [construct, noFields, constructor?, pairs]
  cases record.selfReferencing with
  | false => exact String.empty_append.symm
  | true => rfl

include inScope in
theorem assignments_valid : ∀ pair ∈ record.assignments,
    Elm.isValueName pair.1 = true ∧ Elm.isValueName pair.2 = true := by
  intro pair member
  obtain ⟨name, binder⟩ := List.of_mem_zip member
  obtain ⟨field, inside, same⟩ := List.mem_map.mp name
  exact ⟨same ▸ (inScope field inside).name, (binders_valid _ binder).1⟩

/-! ### The decoder, read from its text -/

/-- The lines of the decoder with the given decoders of fields. -/
def linesWith (record : Record) (fragments : List String) : List String :=
  [record.decoderName ++ " : D.Decoder " ++ record.typeName, record.decoderName ++ " ="] ++
    record.decoderBody fragments

include typed inScope inhabited in
theorem oneLine_linesWith {fragments : List String} (single : ∀ line ∈ fragments, OneLine line) :
    ∀ line ∈ record.linesWith fragments, OneLine line := by
  have noFields : record.fields.isEmpty = false := List.isEmpty_eq_false_iff.mpr inhabited
  have typeName := oneLine_of_isTypeName typed
  have decoder : OneLine record.decoderName :=
    oneLine_of_isValueName (Elm.isValueName_decoderName typed)
  have combinator : OneLine (combinator record.arity) := by
    unfold Record.combinator
    split
    · decide
    · exact oneLine_append.mpr ⟨by decide, oneLine_toString _⟩
  have binders : OneLine (String.intercalate " " record.binders) :=
    oneLine_intercalate (by decide) fun binder member =>
      oneLine_of_isValueName (binders_valid binder member).1
  have made : OneLine (record.construct record.binders) := by
    have pairs : OneLine (String.intercalate ", "
        (record.assignments.map fun pair => pair.1 ++ " = " ++ pair.2)) := by
      refine oneLine_intercalate (by decide) (List.forall_mem_map.mpr fun pair member => ?_)
      obtain ⟨name, value⟩ := assignments_valid inScope pair member
      exact oneLine_append.mpr ⟨oneLine_append.mpr ⟨oneLine_of_isValueName name, by decide⟩,
        oneLine_of_isValueName value⟩
    rw [construct_binders inhabited, oneLine_append, oneLine_append, oneLine_append, constructor?]
    refine ⟨?_, ⟨by decide, pairs⟩, by decide⟩
    cases record.selfReferencing with
    | false => exact (by decide : OneLine "")
    | true => exact oneLine_append.mpr ⟨typeName, by decide⟩
  have arguments : ∀ line ∈ fragments.map fun decoder => "        " ++ Elm.argument decoder,
      OneLine line := by
    rw [List.forall_mem_map]
    exact fun fragment member =>
      oneLine_append.mpr ⟨by decide, oneLine_argument (single fragment member)⟩
  rw [linesWith, decoderBody, noFields]
  simp only [Bool.false_eq_true, if_false, List.forall_mem_append, List.forall_mem_cons,
    oneLine_append]
  exact ⟨⟨⟨⟨decoder, by decide⟩, typeName⟩, ⟨decoder, by decide⟩, fun _ => nofun⟩,
    ⟨⟨by decide, combinator⟩, ⟨⟨by decide, binders⟩, by decide⟩, ⟨by decide, made⟩, by decide,
      fun _ => nofun⟩, arguments⟩

include typed inScope inhabited in
/-- **The decoder of a record**, read from its text. -/
theorem readDecoder_unlines {fragments : List String}
    (single : ∀ line ∈ fragments, OneLine line) :
    readDecoder (unlines (record.linesWith fragments)) = some
      { name := record.decoderName
        typeName := record.typeName
        combinator := combinator record.fields.length
        binders := record.binders
        constructor := record.constructor?
        assignments := record.assignments
        arguments := fragments.map Elm.argument } := by
  have lines := linesOf_unlines_self (oneLine_linesWith typed inScope inhabited single)
  have noFields : record.fields.isEmpty = false := List.isEmpty_eq_false_iff.mpr inhabited
  have signature := readSignature_append
    (show Elm.isValueName record.decoderName = true from Elm.isValueName_decoderName typed)
    ("D.Decoder " ++ record.typeName)
  have result := readResult_append record.constructor?
    (assignments_ne_nil inhabited) (by
      rw [constructor?]
      split
      · rintro _ ⟨⟩
        exact typed
      · exact fun _ => nofun)
    (fun pair member => (assignments_valid inScope pair member).1)
    (fun pair member => (assignments_valid inScope pair member).2)
  have someBinders : record.binders ≠ [] := by
    intro empty
    have length := record.length_binders
    rw [empty] at length
    exact inhabited (List.eq_nil_of_length_eq_zero length.symm)
  have binders := pieces_intercalate ' ' someBinders fun binder member =>
    Elm.not_mem_valueName rfl (binders_valid binder member).1
  have arguments : (fragments.map fun decoder => "        " ++ Elm.argument decoder).mapM
      (after "        ") = some (fragments.map Elm.argument) :=
    mapM_map_eq_some fun fragment _ => after_append _ _
  rw [← construct_binders inhabited] at result
  have signed : record.decoderName ++ " : D.Decoder " ++ record.typeName =
      record.decoderName ++ " : " ++ ("D.Decoder " ++ record.typeName) := by
    rw [← String.toList_inj]
    simp only [String.toList_append, List.append_assoc]
    rfl
  rw [← signed] at signature
  rw [readDecoder, lines, linesWith, decoderBody, noFields]
  simp only [Bool.false_eq_true, if_false, List.cons_append, List.nil_append]
  rw [signature]
  simp only [Option.bind_some, after_append, between_append, result, true_and, if_true, arguments,
    Option.map_some]
  rw [show (" " : String) = String.singleton ' ' from rfl, binders, arity]

end Record

/-! ### Alignment -/

section Built

variable {name version : String} {declarations : OrderedMap String RecordDecl} {schema : Schema}
variable (built : Schema.build name version declarations = .ok schema)
variable {key : String} {decl : RecordDecl} {record : Record}
variable (found : schema.records.get? key = some decl)
include built found

theorem Schema.description_clean : hasCommentDelimiter decl.description = false := by
  obtain ⟨rules, _⟩ := Schema.build_eq_ok_iff.mp built
  rw [Schema.get?_of_build built, Option.map_eq_some_iff] at found
  obtain ⟨declared, member, rfl⟩ := found
  exact rules.descriptionsClean _ (OrderedMap.mem_entries_iff.mpr member)

theorem Record.description_clean (resolved : Record.resolve schema key decl = .ok record) :
    hasCommentDelimiter record.description = false := by
  rw [Record.description_eq resolved]
  exact hasCommentDelimiter_trim (Schema.description_clean built found)

/-- **The decoder of a record** makes of the i-th argument the i-th field. Its variables are as many
as the fields, no two alike and no words of the language; the record literal assigns them to the
fields one by one; and the fields stand in the order of their keys, as in the type and the
encoder. -/
theorem Record.decoder_aligned (resolved : Record.resolve schema key decl = .ok record)
    (inhabited : record.fields ≠ [])
    (defaults : ∀ field ∈ record.fields, ∀ default,
      field.presence = .optional (some default) → OneLine default.toElm) :
    ∃ text fragments,
      record.decoder schema = .ok text ∧
      List.Forall₂ (fun field fragment => Field.decoder schema field = .ok fragment)
        record.fields fragments ∧
      readDecoder text = some
        { name := record.decoderName
          typeName := record.typeName
          combinator :=
            if record.fields.length = 1 then "D.map" else "D.map" ++ toString record.fields.length
          binders := record.binders
          constructor := if record.selfReferencing then some record.typeName else none
          assignments := (record.fields.map (·.name)).zip record.binders
          arguments := fragments.map Elm.argument } ∧
      (record.binders.length = record.fields.length ∧ record.binders.Nodup ∧
        ∀ binder ∈ record.binders, Elm.isValueName binder = true ∧ binder ∉ Elm.reservedWords) ∧
      (record.fields.map (·.name)).Nodup ∧
      readType record.typeDefinition = some
        { name := record.typeName
          constructor := if record.selfReferencing then some record.typeName else none
          fields := record.fields.map fun field => (field.name, field.annotation) } ∧
      readEncoder record.encoder = some
        { name := record.encoderName
          typeName := record.typeName
          pattern := record.pattern
          entries := record.fields.map fun field => (field.key, field.encoder) } ∧
      (record.fields.map (·.key)).Pairwise (· < ·) := by
  have typeNames := Schema.wellNamed_of_build built
  have inScope := Record.fields_inScope resolved
  have typed : Elm.isTypeName record.typeName = true := by
    rw [Record.typeName_eq resolved]
    refine typeNames key ?_
    rw [Schema.declares, OrderedMap.contains, found]
    rfl
  have clean : hasCommentDelimiter record.description = false := by
    rw [Record.description_eq resolved]
    exact hasCommentDelimiter_trim (Schema.description_clean built found)
  obtain ⟨fragments, decoded⟩ : ∃ fragments,
      List.Forall₂ (fun field fragment => Field.decoder schema field = .ok fragment)
        record.fields fragments :=
    exists_results fun field member => Field.decoder_isOk (inScope field member)
  have single : ∀ fragment ∈ fragments, OneLine fragment := by
    intro fragment member
    obtain ⟨field, inside, fieldDecoded⟩ := exists_item_of_mem decoded member
    exact Field.oneLine_decoder typeNames (inScope field inside) (defaults field inside)
      fieldDecoded
  have text : record.decoder schema = .ok (Record.unlines (record.linesWith fragments)) := by
    rw [Record.decoder, Record.decoderLines, mapM_eq_ok_iff.mpr decoded]
    rfl
  exact ⟨_, fragments, text, decoded, Record.readDecoder_unlines typed inScope inhabited single,
    ⟨record.length_binders, Record.binders_nodup, Record.binders_valid⟩,
    Record.names_nodup resolved,
    Record.readType_typeDefinition typeNames typed inScope inhabited clean,
    Record.readEncoder_encoder typeNames typed inScope inhabited, Record.keys_ascending resolved⟩

end Built

/-- The declarations of a point whose second coordinate may be left out. -/
def pointDeclarations : OrderedMap String RecordDecl :=
  .ofList [("Point",
    { description := "A point."
      fields := .ofList [("x", ⟨"int", .required⟩),
        ("y", ⟨"int", .optional (some (.number "0"))⟩)]
      breaksRecursion := false })]

/-- The decoder of a point. -/
theorem point_decoder_aligned :
    ∃ schema decl record text, Schema.build "shapes" "1" pointDeclarations = .ok schema ∧
      schema.records.get? "Point" = some decl ∧
      Record.resolve schema "Point" decl = .ok record ∧ record.decoder schema = .ok text ∧
      readDecoder text = some
        { name := "pointDecoder"
          typeName := "Point"
          combinator := "D.map2"
          binders := ["a", "b"]
          constructor := none
          assignments := [("x", "a"), ("y", "b")]
          arguments := ["(D.field \"x\" D.int)", "(opFieldWithDefault \"y\" 0 D.int)"] } := by
  have built : Schema.build "shapes" "1" pointDeclarations =
    .ok ⟨"shapes", "1", pointDeclarations⟩ := rfl
  let record : Record := ⟨"Point", "Point", "A point.", false,
    [⟨"x", "x", .int, .required⟩, ⟨"y", "y", .int, .optional (some (.number "0"))⟩]⟩
  obtain ⟨decl, found, resolved⟩ : ∃ decl, pointDeclarations.get? "Point" = some decl ∧
    Record.resolve ⟨"shapes", "1", pointDeclarations⟩ "Point" decl = .ok record := ⟨_, rfl, rfl⟩
  have defaults : ∀ field ∈ record.fields, ∀ default,
      field.presence = .optional (some default) → OneLine default.toElm := by
    simp only [record, List.forall_mem_cons]
    refine ⟨fun _ => nofun, ?_, fun _ => nofun⟩
    rintro _ ⟨⟩
    decide
  obtain ⟨text, fragments, decoded, each, read, _⟩ :=
    Record.decoder_aligned built found resolved (List.cons_ne_nil _ _) defaults
  have fragmentsOf : fragments = ["D.field \"x\" D.int", "opFieldWithDefault \"y\" 0 D.int"] := by
    have computed : record.fields.mapM (Field.decoder ⟨"shapes", "1", pointDeclarations⟩) =
      .ok ["D.field \"x\" D.int", "opFieldWithDefault \"y\" 0 D.int"] := rfl
    exact Except.ok.inj ((mapM_eq_ok_iff.mpr each).symm.trans computed)
  rw [fragmentsOf] at read
  refine ⟨_, decl, record, text, built, found, resolved, decoded, read.trans (congrArg some ?_)⟩
  decide +kernel

end ElmCodec
