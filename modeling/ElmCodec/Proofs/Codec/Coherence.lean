/-
**The texts of a field agree in their types.**

A type has the name of an Elm type, an encoder and a decoder; a field adds an annotation and what
its presence asks for. Each text is read as an expression by itself, and the expressions are typed
with the helpers that a module imports or defines.

* `FieldType.term_elmName`, `FieldType.term_encoder`, `FieldType.term_decoder` — **the texts of a
  type**: the name stands for it, the encoder goes from it and the decoder to it.
* `Field.readTy_annotation`, `Field.encoder_typed`, `Field.decoder_typed` — the texts of a field, in
  every presence.
* `texts_coherent` — **all texts of a schema** agree.
-/

import ElmCodec.Proofs.Codec.Resolved
import ElmCodec.Proofs.Codec.Typing

namespace ElmCodec

open Reading

/-! ### Texts of types -/

namespace FieldType

/-- The type that the name of a type stands for. -/
def ty : FieldType → Ty
  | bool => .name "Bool"
  | int => .name "Int"
  | string => .string
  | float => .name "Float"
  | timestamp => .name "Timestamp"
  | value => .value
  | enumeration name => .name (enumerationStart ++ name)
  | record name => .name (Elm.displayName name)
  | list element => .list element.ty
  | dict element => .dict .string element.ty

end FieldType

theorem isQualified_append {first second : String} (before : isQualified first = true)
    (behind : isQualified second = true) : isQualified (first ++ second) = true := by
  rw [isQualified, Bool.and_eq_true, Bool.not_eq_true', List.isEmpty_eq_false_iff,
    List.all_eq_true] at before behind ⊢
  rw [String.toList_append]
  refine ⟨fun empty => before.1 (List.append_eq_nil_iff.mp empty).1, fun c member => ?_⟩
  rcases List.mem_append.mp member with inside | inside
  · exact before.2 c inside
  · exact behind.2 c inside

theorem isQualified_of_isTypeName {name : String} (valid : Elm.isTypeName name = true) :
    isQualified name = true := by
  rw [isQualified, Bool.and_eq_true, Bool.not_eq_true', List.isEmpty_eq_false_iff,
    List.all_eq_true]
  exact ⟨Elm.typeName_ne_nil valid, fun c member => by
    rw [Elm.isNameChar_of_mem_typeName valid member, Bool.true_or]⟩

theorem isQualified_of_isValueName {name : String} (valid : Elm.isValueName name = true) :
    isQualified name = true := by
  rw [isQualified, Bool.and_eq_true, Bool.not_eq_true', List.isEmpty_eq_false_iff,
    List.all_eq_true]
  exact ⟨Elm.valueName_ne_nil valid, fun c member => by
    rw [Elm.isNameChar_of_mem_valueName valid member, Bool.true_or]⟩

section Types

variable {schema : Schema} (known : String → Ty → Prop)
variable (typeNames : schema.WellNamed)
variable (helpers : ∀ {text type}, Helper schema text type → known text type)
variable {type : FieldType} (inScope : type.InScope schema.declares)

namespace FieldType

include typeNames inScope in
/-- **The name of a type** stands for it. -/
theorem term_elmName : ∃ e, Term type.elmName e ∧ Ty.ofExpr? e = some type.ty := by
  induction type with
  | bool | int | string | float | timestamp | value => exact ⟨_, term_name (by decide), rfl⟩
  | enumeration name =>
    have named := isQualified_of_isTypeName (show Elm.isTypeName name = true from inScope)
    exact ⟨_, term_name (isQualified_append (by decide) named), rfl⟩
  | record name => exact ⟨_, term_name (isQualified_of_isTypeName (typeNames name inScope)), rfl⟩
  | list element ih =>
    obtain ⟨e, term, same⟩ := ih inScope
    have chain := (argument_name "List" (by decide)).chain.apply term.argument
    refine ⟨_, chain.term, ?_⟩
    rw [Ty.ofExpr?, Ty.ofExpr?, same]
    rfl
  | dict element ih =>
    obtain ⟨e, term, same⟩ := ih inScope
    have start := (argument_name "Dict" (by decide)).chain.apply
      (argument_name "String" (by decide))
    refine ⟨_, (start.apply term.argument).term, ?_⟩
    rw [Ty.ofExpr?, Ty.ofExpr?, same]
    rfl

include typeNames helpers inScope in
/-- **The encoder of a type** goes from the type to JSON values. -/
theorem term_encoder :
    ∃ e, Term type.encoder e ∧ HasType known none e (.arrow type.ty .value) := by
  induction type with
  | bool => exact ⟨_, term_name (by decide), .name (helpers .encodeBool)⟩
  | int => exact ⟨_, term_name (by decide), .name (helpers .encodeInt)⟩
  | string => exact ⟨_, term_name (by decide), .name (helpers .encodeString)⟩
  | float => exact ⟨_, term_name (by decide), .name (helpers .encodeFloat)⟩
  | timestamp => exact ⟨_, term_name (by decide), .name (helpers .encodeTimestamp)⟩
  | value => exact ⟨_, term_name (by decide), .name (helpers (.identity .value))⟩
  | enumeration name =>
    have named := Elm.isValueName_encoderName (show Elm.isTypeName name = true from inScope)
    exact ⟨_, term_name (isQualified_append (by decide) (isQualified_of_isValueName named)),
      .name (helpers (.encodeEnumeration name inScope))⟩
  | record name =>
    have named := Elm.isValueName_encoderName (typeNames name inScope)
    exact ⟨_, term_name (isQualified_of_isValueName named),
      .name (helpers (.encodeRecord name inScope))⟩
  | list element ih =>
    obtain ⟨e, term, typed⟩ := ih inScope
    have chain := (argument_name "E.list" (by decide)).chain.apply term.argument
    exact ⟨_, chain.term, .apply (.name (helpers (.encodeList element.ty))) typed⟩
  | dict element ih =>
    obtain ⟨e, term, typed⟩ := ih inScope
    have keys := (argument_name "E.dict" (by decide)).chain.apply
      (argument_name "identity" (by decide))
    have keysTyped : HasType known none (.apply (.name "E.dict") (.name "identity"))
        (.arrow (.arrow element.ty .value) (.arrow (.dict .string element.ty) .value)) :=
      .apply (.name (helpers (.encodeDict .string element.ty)))
        (.name (helpers (.identity .string)))
    exact ⟨_, (keys.apply term.argument).term, .apply keysTyped typed⟩

/-- The expression for the decoder of a record, lazy if the record has a type of its own. -/
def recordReference (name : String) (decl : RecordDecl) : Expr :=
  let reference := Expr.name (decoderName (Elm.displayName name))
  if decl.selfReferencing then .apply (.name "D.lazy") (.ignoring reference) else reference

/-- The decoder of a record is read as the reference to it. -/
theorem term_recordReference {name : String} (decl : RecordDecl)
    (valid : Elm.isTypeName (Elm.displayName name) = true) :
    Term (recordDecoder name decl) (recordReference name decl) := by
  have named := isQualified_of_isValueName (Elm.isValueName_decoderName valid)
  unfold recordDecoder recordReference
  cases decl.selfReferencing with
  | false => exact term_name named
  | true =>
    have thunk := (argument_name _ named).chain.whole.ignoring.parenthesized
    have chain := (argument_name "D.lazy" (by decide)).chain.apply thunk
    have texts : "D.lazy (\\_ -> " ++ decoderName (Elm.displayName name) ++ ")" =
        "D.lazy" ++ " " ++ ("(" ++ ("\\_ -> " ++ decoderName (Elm.displayName name)) ++ ")") := by
      rw [← String.toList_inj]
      simp only [String.toList_append, List.append_assoc]
      rfl
    rw [if_pos rfl, texts]
    exact chain.term

include typeNames helpers in
/-- The decoder of a record goes to its type, lazily or not. -/
theorem term_recordDecoder {name : String} {decl : RecordDecl}
    (declared : schema.declares name = true) :
    ∃ e, Term (recordDecoder name decl) e ∧
      HasType known none e (.decoder (.name (Elm.displayName name))) := by
  have typed : HasType known none (.name (decoderName (Elm.displayName name)))
      (.decoder (.name (Elm.displayName name))) := .name (helpers (.decodeRecord name declared))
  refine ⟨_, term_recordReference decl (typeNames name declared), ?_⟩
  unfold recordReference
  cases decl.selfReferencing with
  | false => exact typed
  | true => exact .apply (.name (helpers (.decodeLazy _))) (.ignoring typed)

include typeNames helpers inScope in
/-- **The decoder of a type** goes from JSON values to the type. -/
theorem term_decoder :
    ∃ text, type.decoder schema = .ok text ∧
      ∃ e, Term text e ∧ HasType known none e (.decoder type.ty) := by
  induction type with
  | bool => exact ⟨_, rfl, _, term_name (by decide), .name (helpers .decodeBool)⟩
  | int => exact ⟨_, rfl, _, term_name (by decide), .name (helpers .decodeInt)⟩
  | string => exact ⟨_, rfl, _, term_name (by decide), .name (helpers .decodeString)⟩
  | float => exact ⟨_, rfl, _, term_name (by decide), .name (helpers .decodeFloat)⟩
  | timestamp => exact ⟨_, rfl, _, term_name (by decide), .name (helpers .decodeTimestamp)⟩
  | value => exact ⟨_, rfl, _, term_name (by decide), .name (helpers .decodeValue)⟩
  | enumeration name =>
    have named := Elm.isValueName_decoderName (show Elm.isTypeName name = true from inScope)
    exact ⟨_, rfl, _, term_name (isQualified_append (by decide) (isQualified_of_isValueName named)),
      .name (helpers (.decodeEnumeration name inScope))⟩
  | record name =>
    obtain ⟨decl, found⟩ := Option.isSome_iff_exists.mp inScope
    exact ⟨recordDecoder name decl, by rw [decoder, found],
      term_recordDecoder known typeNames helpers inScope⟩
  | list element ih =>
    obtain ⟨text, decoded, e, term, typed⟩ := ih inScope
    have chain := (argument_name "D.list" (by decide)).chain.apply term.argument
    exact ⟨_, by rw [decoder, decoded]; rfl, _, chain.term,
      .apply (.name (helpers (.decodeList element.ty))) typed⟩
  | dict element ih =>
    obtain ⟨text, decoded, e, term, typed⟩ := ih inScope
    have chain := (argument_name "D.dict" (by decide)).chain.apply term.argument
    exact ⟨_, by rw [decoder, decoded]; rfl, _, chain.term,
      .apply (.name (helpers (.decodeDict element.ty))) typed⟩

end FieldType

end Types

/-! ### Texts of fields -/

namespace Field

/-- The type that the annotation of a field stands for. -/
def ty (field : Field) : Ty := if field.isMaybe then .maybe field.type.ty else field.type.ty

/-- The names that an encoder of a field may use: the helpers and the field itself. -/
def Known (schema : Schema) (field : Field) (text : String) (type : Ty) : Prop :=
  Helper schema text type ∨ text = field.access ∧ type = field.ty

/-- The default of a field. -/
def default? (field : Field) : Option Default :=
  match field.presence with
  | .optional default => default
  | .required | .now | .never => none

section Texts

variable {schema : Schema} {field : Field}
variable (typeNames : schema.WellNamed)
variable (inScope : field.InScope schema)
include typeNames inScope

/-- **The annotation of a field** is its type, or `Maybe` of it. -/
theorem readTy_annotation : readTy field.annotation = some field.ty := by
  obtain ⟨e, term, same⟩ := FieldType.term_elmName typeNames inScope.type
  unfold annotation ty readTy
  cases field.isMaybe with
  | false =>
    rw [if_neg Bool.false_ne_true, if_neg Bool.false_ne_true, term.chain.whole.readExpression_eq]
    exact same
  | true =>
    have chain := (argument_name "Maybe" (by decide)).chain.apply term.argument
    rw [if_pos rfl, if_pos rfl]
    show (readExpression ("Maybe" ++ " " ++ Elm.argument field.type.elmName)).bind _ = _
    rw [chain.whole.readExpression_eq, Option.bind_some, Ty.ofExpr?, Ty.ofExpr?, same]
    rfl

/-- **The encoder of a field** gives a JSON value, or none. -/
theorem encoder_typed : TypedText (field.Known schema) field.encoder (.maybe .value) := by
  have helpers {text : String} {type : Ty} (helper : Helper schema text type) :
      field.Known schema text type := Or.inl helper
  obtain ⟨e, term, typed⟩ :=
    FieldType.term_encoder (field.Known schema) typeNames helpers inScope.type
  have access : Argument field.access (.name field.access) :=
    argument_name _ (isQualified_append (by decide) (isQualified_of_isValueName inScope.name))
  have accessTyped {type : Ty} (same : type = field.ty) :
      HasType (field.Known schema) none (.name field.access) type := .name (Or.inr ⟨rfl, same⟩)
  have whole (plain : field.isMaybe = false) : TypedText (field.Known schema)
      ("Just <| " ++ field.type.encoder ++ " " ++ field.access) (.maybe .value) := by
    have same : field.type.ty = field.ty := by rw [ty, plain, if_neg Bool.false_ne_true]
    have read := (argument_name "Just" (by decide)).chain.pipe
      (term.chain.apply access).whole
    rw [show "Just" ++ " <| " ++ (field.type.encoder ++ " " ++ field.access) =
      "Just <| " ++ field.type.encoder ++ " " ++ field.access by
        rw [← String.append_assoc, ← String.append_assoc]; rfl] at read
    exact ⟨_, read.readExpression_eq,
      .apply (.name (helpers (.just .value))) (.apply typed (accessTyped same))⟩
  have mapped (maybe : field.isMaybe = true) : TypedText (field.Known schema)
      ("Maybe.map " ++ Elm.argument field.type.encoder ++ " " ++ field.access) (.maybe .value) := by
    have same : .maybe field.type.ty = field.ty := by rw [ty, maybe, if_pos rfl]
    have start := (argument_name "Maybe.map" (by decide)).chain.apply term.argument
    exact ⟨_, (start.apply access).whole.readExpression_eq,
      .apply (.apply (.name (helpers (.maybeMap field.type.ty .value))) typed) (accessTyped same)⟩
  unfold Field.encoder
  cases presence : field.presence with
  | never =>
    have read := (argument_name "Nothing" (by decide)).chain.whole
    exact ⟨_, read.readExpression_eq, .name (helpers (.nothing .value))⟩
  | now => exact mapped (by rw [isMaybe, presence])
  | required => exact whole (by rw [isMaybe, presence])
  | optional default =>
    cases default with
    | some default => exact whole (by rw [isMaybe, presence]; rfl)
    | none =>
      have maybe : field.isMaybe = true := by
        rw [isMaybe, presence]
        rfl
      show TypedText _ (if field.type.isValue then _ else _) _
      split
      · next raw =>
        -- A raw value is given as it is: what the field may hold is what the encoder may give.
        have same : .maybe .value = field.ty := by
          rw [ty, maybe, if_pos rfl]
          unfold FieldType.isValue at raw
          split at raw
          · next is => rw [is]; rfl
          · cases raw
        exact ⟨_, access.chain.whole.readExpression_eq, accessTyped same⟩
      · exact mapped maybe

/-- **The decoder of a field** gives what the annotation says; its default is of the type of the
field. -/
theorem decoder_typed :
    ∃ text, field.decoder schema = .ok text ∧
      match field.default? with
      | none => TypedText (Helper schema) text (.decoder field.ty)
      | some default =>
        TypedAround (Helper schema) (Elm.argument default.toElm) field.type.ty text
          (.decoder field.ty) := by
  obtain ⟨inner, innerDecoded, e, term, typed⟩ :=
    FieldType.term_decoder (Helper schema) typeNames id inScope.type
  have decodes {lookup : String} (found : field.lookup? = some lookup) :
      field.decoder schema = .ok (lookup ++ " " ++ Elm.argument inner) := by
    rw [Field.decoder, found, innerDecoded]
    rfl
  have atKey (name : String) (valid : isQualified name = true) :
      Chain (name ++ " " ++ Elm.stringLiteral field.key ++ " " ++ Elm.argument inner)
        (.apply (.apply (.name name) (.literal field.key)) e) :=
    ((argument_name name valid).chain.apply (argument_literal field.key)).apply term.argument
  cases presence : field.presence with
  | never =>
    have same : field.ty = .maybe field.type.ty := by rw [ty, isMaybe, presence]; rfl
    have read := (argument_name "D.succeed" (by decide)).chain.apply
      (argument_name "Nothing" (by decide))
    refine ⟨"D.succeed Nothing", by rw [Field.decoder, lookup?, presence], ?_⟩
    rw [default?, presence, same]
    exact ⟨_, read.whole.readExpression_eq,
      .apply (.name (.decodeSucceed _)) (.name (.nothing field.type.ty))⟩
  | now =>
    have same : field.ty = .maybe field.type.ty := by rw [ty, isMaybe, presence]; rfl
    have start := (argument_name "D.map" (by decide)).chain.apply
      (argument_name "Just" (by decide))
    have read := start.pipe (atKey "D.field" (by decide)).whole
    have texts : "D.map" ++ " " ++ "Just" ++ " <| " ++
        ("D.field" ++ " " ++ Elm.stringLiteral field.key ++ " " ++ Elm.argument inner) =
        "D.map Just <| D.field " ++ Elm.stringLiteral field.key ++ " " ++ Elm.argument inner := by
      rw [← String.toList_inj]
      simp only [String.toList_append, List.append_assoc]
      rfl
    rw [texts] at read
    refine ⟨_, decodes (by rw [lookup?, presence]), ?_⟩
    rw [default?, presence, same]
    exact ⟨_, read.readExpression_eq,
      .apply (.apply (.name (.decodeMap field.type.ty _)) (.name (.just _)))
        (.apply (.apply (.name (.decodeField _)) (.literal _)) typed)⟩
  | required =>
    have same : field.ty = field.type.ty := by rw [ty, isMaybe, presence]; rfl
    refine ⟨_, decodes (by rw [lookup?, presence]), ?_⟩
    rw [default?, presence, same]
    exact ⟨_, (atKey "D.field" (by decide)).whole.readExpression_eq,
      .apply (.apply (.name (.decodeField _)) (.literal _)) typed⟩
  | optional default =>
    cases default with
    | none =>
      have same : field.ty = .maybe field.type.ty := by rw [ty, isMaybe, presence]; rfl
      refine ⟨_, decodes (by rw [lookup?, presence]), ?_⟩
      rw [default?, presence, same]
      exact ⟨_, (atKey "opField" (by decide)).whole.readExpression_eq,
        .apply (.apply (.name (.opField _)) (.literal _)) typed⟩
    | some default =>
      have same : field.ty = field.type.ty := by rw [ty, isMaybe, presence]; rfl
      refine ⟨_, decodes (by rw [lookup?, presence]), ?_⟩
      rw [default?, presence, same]
      exact ⟨_, readsAround_append "opFieldWithDefault" (by decide) term.argument,
        .apply (.apply (.apply (.name (.opFieldWithDefault _)) (.literal _)) (.given rfl))
          typed.of_none⟩

end Texts

end Field

/-! ### Coherence -/

/-- The name, the encoder and the decoder of a type agree. -/
structure FieldType.Coherent (schema : Schema) (type : FieldType) : Prop where
  elmName : readTy type.elmName = some type.ty
  encoder : TypedText (Helper schema) type.encoder (.arrow type.ty .value)
  decoder : ∃ text, type.decoder schema = .ok text ∧
    TypedText (Helper schema) text (.decoder type.ty)

/-- The annotation, the encoder and the decoder of a field agree. A default is taken as it is, as
an argument of the type of the field. -/
structure Field.Coherent (schema : Schema) (field : Field) : Prop where
  type : field.type.Coherent schema
  annotation : readTy field.annotation =
    some (if field.isMaybe then .maybe field.type.ty else field.type.ty)
  encoder : TypedText (field.Known schema) field.encoder (.maybe .value)
  decoder : ∃ text, field.decoder schema = .ok text ∧
    match field.default? with
    | none => TypedText (Helper schema) text (.decoder field.ty)
    | some default =>
      TypedAround (Helper schema) (Elm.argument default.toElm) field.type.ty text
        (.decoder field.ty)

section Built

variable {name version : String} {declarations : OrderedMap String RecordDecl} {schema : Schema}
variable (built : Schema.build name version declarations = .ok schema)
include built

theorem FieldType.coherent {type : FieldType} (inScope : type.InScope schema.declares) :
    type.Coherent schema := by
  have typeNames := Schema.wellNamed_of_build built
  obtain ⟨nameExpr, nameTerm, same⟩ := term_elmName typeNames inScope
  obtain ⟨encoderExpr, encoderTerm, encoderTyped⟩ :=
    term_encoder (Helper schema) typeNames id inScope
  obtain ⟨text, decoded, decoderExpr, decoderTerm, decoderTyped⟩ :=
    term_decoder (Helper schema) typeNames id inScope
  refine ⟨?_, ⟨encoderExpr, encoderTerm.chain.whole.readExpression_eq, encoderTyped⟩,
    ⟨text, decoded, decoderExpr, decoderTerm.chain.whole.readExpression_eq, decoderTyped⟩⟩
  rw [readTy, nameTerm.chain.whole.readExpression_eq]
  exact same

theorem Field.coherent {field : Field} (inScope : field.InScope schema) :
    field.Coherent schema := by
  have typeNames := Schema.wellNamed_of_build built
  exact ⟨FieldType.coherent built inScope.type, readTy_annotation typeNames inScope,
    encoder_typed typeNames inScope, decoder_typed typeNames inScope⟩

/-- **All texts of a schema agree**: those of every type over its records, and those of every field,
whatever its presence. The fields of the schema are such fields. -/
theorem texts_coherent :
    (∀ type : FieldType, type.InScope schema.declares → type.Coherent schema) ∧
      (∀ field : Field, field.InScope schema → field.Coherent schema) ∧
        ∀ key decl field, Field.resolve schema key decl = .ok field → field.InScope schema :=
  ⟨fun _ inScope => FieldType.coherent built inScope, fun _ inScope => Field.coherent built inScope,
    fun _ _ _ resolved => Field.inScope_of_resolve resolved⟩

end Built

/-- The declaration of the field that holds the folders of a folder. -/
def foldersField : FieldDecl := ⟨"[\x7bFolder\x7d]", .optional (some (.expression "[ empty ]"))⟩

/-- The declarations of a folder. -/
def folderDeclarations : OrderedMap String RecordDecl :=
  .ofList [("Folder",
    { description := "", fields := .ofList [("folders", foldersField)], breaksRecursion := false })]

/-- The field of a folder is coherent. -/
theorem folder_texts_coherent :
    ∃ schema field, Schema.build "files" "1" folderDeclarations = .ok schema ∧
      Field.resolve schema "folders" foldersField = .ok field ∧ field.Coherent schema := by
  have built : Schema.build "files" "1" folderDeclarations =
    .ok ⟨"files", "1", folderDeclarations.mapEntries fun _ decl =>
      { decl with selfReferencing := true }⟩ := rfl
  obtain ⟨field, resolves⟩ : ∃ field, Field.resolve ⟨"files", "1",
    folderDeclarations.mapEntries fun _ decl => { decl with selfReferencing := true }⟩ "folders"
      foldersField = .ok field := ⟨_, rfl⟩
  obtain ⟨_, fields, resolved⟩ := texts_coherent built
  exact ⟨_, field, built, resolves, fields field (resolved _ _ _ resolves)⟩

end ElmCodec
