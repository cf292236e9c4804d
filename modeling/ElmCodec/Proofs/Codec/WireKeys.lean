/-
**The encoder and the decoder of a record agree on its keys.**

What the three pieces of a record say about its fields follows lines that are made of the names of
the record. Nothing is asked of those names here: the pieces are read after these lines.

* `readFields`, `readEntries`, `readArguments` — the fields of a type, the entries of an encoder,
  the arguments of a decoder.
* `readKey` — the key that an argument of a decoder looks up, if it looks up any.
* `readAccess` — the fields of `data` that an expression reads.
* `Field.readKey_decoder`, `Field.readAccess_encoder` — the texts of a field.
* `Record.keys_agree` — **the keys of a record** in its encoder and in its decoder.
-/

import ElmCodec.Proofs.Codec.Coherence
import ElmCodec.Proofs.Codec.Pieces

namespace ElmCodec

open Reading

namespace Reading

/-! ### Reading -/

/-- The fields of a type with their annotations, given what follows its name. -/
def readFields (text : String) : Option (List (String × String)) :=
  match linesOf text with
  | [] => none
  | first :: lines =>
    if first = " \x7b\x7d" ∧ lines = [] ∨ first = "" ∧ lines = ["    \x7b\x7d"] then some []
    else
      ((wholeList "    " "\x7b" "\x7d" lines).or
        (wholeList "        " "\x7b" "\x7d" lines)).bind (·.mapM readSignature)

/-- The entries of an encoder, keys and the expressions for their values, given what follows its
first two lines. -/
def readEntries (text : String) : Option (List (String × String)) :=
  match linesOf text with
  | [] => none
  | function :: lines =>
    if function = "    maybeObject []" ∧ lines = [] then some []
    else if function = "    maybeObject" then
      (wholeList "        " "[" "]" lines).bind (·.mapM readEntry)
    else none

/-- The arguments of a decoder, given what follows the function that makes the record. -/
def readArguments (text : String) : Option (List String) :=
  (linesOf text).mapM (after "        ")

/-- What the decoder of a field may start with before the key. -/
def lookups : List String :=
  ["D.field ", "D.map Just <| D.field ", "opField ", "opFieldWithDefault "]

/-- The key that an argument of a decoder looks up; `D.succeed Nothing` looks up none. -/
def readKey (argument : String) : Option (Option String) :=
  let expression := unparenthesized argument
  if expression = "D.succeed Nothing" then some none
  else
    lookups.findSome? fun lookup =>
      (after lookup expression).bind fun rest => (readString rest).map fun read => some read.1

/-- The fields of `data` that an expression reads. -/
def readAccess (expression : String) : Option (List String) :=
  (readExpression expression).map fun e => e.names.filterMap (after "data.")

theorem lookups_apart : ∀ first ∈ lookups, ∀ second ∈ lookups, first ≠ second →
    ¬first.toList <+: second.toList := by
  decide +kernel

/-- **The key of a look-up** is read back. -/
theorem readKey_append {lookup : String} (known : lookup ∈ lookups) (key rest : String) :
    readKey (Elm.argument (lookup ++ (Elm.stringLiteral key ++ rest))) = some (some key) := by
  have clear : ∀ lookup ∈ lookups, ¬"(".toList <+: lookup.toList ∧ ¬lookup.toList <+: "(".toList ∧
      ¬"D.succeed".toList <+: lookup.toList ∧ ¬lookup.toList <+: "D.succeed".toList := by
    decide +kernel
  obtain ⟨notOpen, notEmpty, notSuccess, notShort⟩ := clear lookup known
  have notNothing : lookup ++ (Elm.stringLiteral key ++ rest) ≠ "D.succeed Nothing" := by
    intro same
    have none := after_append_eq_none notSuccess notShort (Elm.stringLiteral key ++ rest)
    rw [same] at none
    cases none
  have found : ((after lookup (lookup ++ (Elm.stringLiteral key ++ rest))).bind fun rest =>
      (readString rest).map fun read => some read.1) = some (some key) := by
    rw [after_append, Option.bind_some, readString_append, Option.map_some]
  have others : ∀ other ∈ lookups, other ≠ lookup →
      ((after other (lookup ++ (Elm.stringLiteral key ++ rest))).bind fun rest =>
        (readString rest).map fun read => some read.1) = none := by
    intro other member different
    rw [after_append_eq_none (lookups_apart _ member _ known different)
      (lookups_apart _ known _ member different.symm)]
    rfl
  unfold readKey
  rw [unparenthesized_argument (after_append_eq_none notOpen notEmpty _)]
  simp only [notNothing, if_false]
  obtain ⟨before, behind, cut⟩ := List.append_of_mem known
  by_cases earlier : lookup ∈ before
  · have distinct : lookups.Nodup := by decide +kernel
    rw [cut, List.nodup_append] at distinct
    exact absurd rfl (distinct.2.2 lookup earlier lookup List.mem_cons_self)
  · refine List.findSome?_eq_some_iff.mpr ⟨before, lookup, behind, cut, found, ?_⟩
    intro other member
    refine others other (by rw [cut]; exact List.mem_append_left _ member) ?_
    rintro rfl
    exact earlier member

end Reading

/-! ### What comes before the fields -/

namespace Record

/-- A type up to its fields. -/
def typeHead (record : Record) : String :=
  record.docComment ++
    if record.selfReferencing then "type " ++ record.typeName ++ "\n    = " ++ record.typeName
    else "type alias " ++ record.typeName ++ " ="

/-- An encoder up to its entries. -/
def encoderHead (record : Record) : String :=
  unlines [record.encoderName ++ " : " ++ record.typeName ++ " -> E.Value",
    record.encoderName ++ " " ++ record.pattern ++ " ="]

/-- A decoder up to the decoders of the fields. -/
def decoderHead (record : Record) : String := unlines (record.linesWith [])

/-! ### The fields, read from the pieces -/

/-- The lines of a type after its name: braces alone, or a list of its fields. -/
inductive TypeRest (signatures : List String) : List String → Prop
  | ownUnit (empty : signatures = []) : TypeRest signatures [" \x7b\x7d"]
  | unit (empty : signatures = []) : TypeRest signatures ["", "    \x7b\x7d"]
  | fields (indent : String) (known : indent ∈ ["    ", "        "]) (inhabited : signatures ≠ []) :
    TypeRest signatures ("" :: (leadLines indent "\x7b" signatures ++ [indent ++ "\x7d"]))

theorem exists_typeRest (record : Record) :
    ∃ rest, record.typeDefinition = record.typeHead ++ unlines rest ∧
      TypeRest (record.fields.map fun field => field.name ++ " : " ++ field.annotation) rest := by
  have joined (start : String) (lines : List String) :
      unlines (start :: lines) = start ++ unlines ("" :: lines) := by
    rw [unlines_cons, unlines_cons, String.empty_append, String.append_assoc]
  have own (rest : String) (lines : List String) :
      unlines (("type " ++ record.typeName) :: ("    = " ++ record.typeName ++ rest) :: lines) =
        "type " ++ record.typeName ++ "\n    = " ++ record.typeName ++ unlines (rest :: lines) := by
    rw [unlines_cons, unlines_cons, unlines_cons, ← String.toList_inj]
    simp only [String.toList_append, List.append_assoc]
    rfl
  suffices lines : ∃ rest, unlines record.typeLines =
      (if record.selfReferencing then "type " ++ record.typeName ++ "\n    = " ++ record.typeName
        else "type alias " ++ record.typeName ++ " =") ++ unlines rest ∧
      TypeRest (record.fields.map fun field => field.name ++ " : " ++ field.annotation) rest by
    obtain ⟨rest, cut, shape⟩ := lines
    exact ⟨rest, (congrArg (record.docComment ++ ·) cut).trans String.append_assoc.symm, shape⟩
  unfold typeLines
  by_cases inhabited : record.fields = []
  · rw [inhabited]
    cases record.selfReferencing with
    | false => exact ⟨_, joined _ _, .unit rfl⟩
    | true => exact ⟨_, own " \x7b\x7d" [], .ownUnit rfl⟩
  · have someLines :
        (record.fields.map fun field => field.name ++ " : " ++ field.annotation) ≠ [] :=
      mt List.map_eq_nil_iff.mp inhabited
    rw [List.isEmpty_eq_false_iff.mpr inhabited]
    cases record.selfReferencing with
    | false => exact ⟨_, joined _ _, .fields "    " (by decide) someLines⟩
    | true =>
      have named := own "" (leadLines "        " "\x7b" (record.fields.map fun field =>
        field.name ++ " : " ++ field.annotation) ++ ["        " ++ "\x7d"])
      rw [String.append_empty] at named
      exact ⟨_, named, .fields "        " (by decide) someLines⟩

/-- A list of fields is read back, whatever its indent. -/
theorem readFields_unlines {indent : String} (known : indent ∈ ["    ", "        "])
    {signatures : List String} (inhabited : signatures ≠ [])
    (single : ∀ line ∈ signatures, OneLine line) :
    readFields (unlines ("" :: (leadLines indent "\x7b" signatures ++ [indent ++ "\x7d"]))) =
      signatures.mapM readSignature := by
  have whole := wholeList_leadLines indent "\x7b" "\x7d" (by decide) inhabited
  have indented : OneLine indent := by
    rcases List.mem_pair.mp known with rfl | rfl <;> decide
  have lines : ∀ line ∈ "" :: (leadLines indent "\x7b" signatures ++ [indent ++ "\x7d"]),
      OneLine line := by
    rw [List.forall_mem_cons, List.forall_mem_append, List.forall_mem_singleton, oneLine_append]
    exact ⟨by decide, oneLine_leadLines _ _ indented (by decide) single, indented, by decide⟩
  have notUnit : leadLines indent "\x7b" signatures ++ [indent ++ "\x7d"] ≠ ["    \x7b\x7d"] := by
    intro same
    have length := congrArg List.length same
    have some := List.length_pos_of_ne_nil inhabited
    rw [List.length_append, length_leadLines, List.length_singleton, List.length_singleton]
      at length
    omega
  rw [readFields, linesOf_unlines_self lines]
  simp only [notUnit, and_false, or_false, String.reduceEq, false_and, if_false]
  rcases List.mem_pair.mp known with rfl | rfl
  · rw [whole]
    rfl
  · -- The eight blanks of the indent are not four blanks and a brace.
    have notShort : wholeList "    " "\x7b" "\x7d"
        (leadLines "        " "\x7b" signatures ++ ["        " ++ "\x7d"]) = none := by
      obtain ⟨first, rest, rfl⟩ := List.exists_cons_of_ne_nil inhabited
      rw [wholeList, leadLines, List.cons_append, items, after, String.toList_append,
        String.toList_append]
      rfl
    rw [whole, notShort]
    rfl

section Pieces

variable {schema : Schema} {record : Record}
variable (typeNames : schema.WellNamed)
variable (inScope : ∀ field ∈ record.fields, field.InScope schema)
include typeNames inScope

/-- **The fields of a type**, in order. -/
theorem readFields_typeDefinition :
    (after record.typeHead record.typeDefinition).bind readFields =
      some (record.fields.map fun field => (field.name, field.annotation)) := by
  have signatures : (record.fields.map fun field => field.name ++ " : " ++ field.annotation).mapM
      readSignature = some (record.fields.map fun field => (field.name, field.annotation)) :=
    mapM_map_eq_some fun field member => readSignature_append (inScope field member).name _
  have single := oneLine_signatures typeNames inScope
  obtain ⟨rest, cut, shape⟩ := record.exists_typeRest
  rw [cut, after_append, Option.bind_some]
  cases shape with
  | ownUnit empty =>
    rw [List.map_eq_nil_iff.mp empty]
    decide +kernel
  | unit empty =>
    rw [List.map_eq_nil_iff.mp empty]
    decide +kernel
  | fields indent known inhabited =>
    exact (readFields_unlines known inhabited single).trans signatures

/-- **The entries of an encoder**, in order. -/
theorem readEntries_encoder :
    (after record.encoderHead record.encoder).bind readEntries =
      some (record.fields.map fun field => (field.key, field.encoder)) := by
  have entries : (record.fields.map fun field =>
      "( " ++ Elm.stringLiteral field.key ++ ", " ++ field.encoder ++ " )").mapM readEntry =
      some (record.fields.map fun field => (field.key, field.encoder)) :=
    mapM_map_eq_some fun field _ => readEntry_append field.key field.encoder
  have single := oneLine_entries typeNames inScope
  rw [encoder, encoderLines, unlines_append, encoderHead, after_append, Option.bind_some]
  by_cases inhabited : record.fields = []
  · rw [inhabited]
    decide +kernel
  · have lines : ∀ line ∈ "    maybeObject" :: (leadLines "        " "[" (record.fields.map
        fun field => "( " ++ Elm.stringLiteral field.key ++ ", " ++ field.encoder ++ " )") ++
          ["        ]"]), OneLine line := by
      rw [List.forall_mem_cons, List.forall_mem_append, List.forall_mem_singleton]
      exact ⟨by decide, oneLine_leadLines _ _ (by decide) (by decide) single, by decide⟩
    have whole := wholeList_leadLines "        " "[" "]" (by decide)
      (mt List.map_eq_nil_iff.mp inhabited : (record.fields.map fun field =>
        "( " ++ Elm.stringLiteral field.key ++ ", " ++ field.encoder ++ " )") ≠ [])
    rw [List.isEmpty_eq_false_iff.mpr inhabited, if_neg Bool.false_ne_true, readEntries,
      List.cons_append, linesOf_unlines_self lines]
    simp only [String.reduceEq, false_and, if_false, if_true]
    rw [show "        ]" = "        " ++ "]" from rfl, whole]
    exact entries

omit typeNames inScope in
/-- **The arguments of a decoder**, in order. -/
theorem readArguments_unlines {fragments : List String}
    (single : ∀ line ∈ fragments, OneLine line)
    (matching : fragments.length = record.fields.length) :
    (after record.decoderHead (unlines (record.linesWith fragments))).bind readArguments =
      some (fragments.map Elm.argument) := by
  have arguments : (fragments.map fun decoder => "        " ++ Elm.argument decoder).mapM
      (after "        ") = some (fragments.map Elm.argument) :=
    mapM_map_eq_some fun fragment _ => after_append _ _
  have lines : ∀ line ∈ fragments.map fun decoder => "        " ++ Elm.argument decoder,
      OneLine line := by
    rw [List.forall_mem_map]
    exact fun fragment member =>
      oneLine_append.mpr ⟨by decide, oneLine_argument (single fragment member)⟩
  have cut : (if record.fields.isEmpty then []
      else fragments.map fun decoder => "        " ++ Elm.argument decoder) =
        fragments.map fun decoder => "        " ++ Elm.argument decoder := by
    split
    · next noFields =>
      rw [List.isEmpty_iff.mp noFields] at matching
      rw [List.eq_nil_of_length_eq_zero matching, List.map_nil]
    · rfl
  rw [record.linesWith_eq fragments, cut, unlines_append, decoderHead, after_append,
    Option.bind_some, readArguments, linesOf_unlines_self lines, arguments]

end Pieces

end Record

/-! ### The texts of a field -/

/-- The names of a typed expression are known. -/
theorem HasType.known_of_mem_names {known : String → Ty → Prop} {given : Option Ty} {e : Expr}
    {type : Ty} (typed : HasType known given e type) :
    ∀ name ∈ e.names, ∃ type, known name type := by
  induction typed with
  | name found => exact List.forall_mem_singleton.mpr ⟨_, found⟩
  | literal _ | given _ => exact fun _ => nofun
  | apply _ _ before behind => exact List.forall_mem_append.mpr ⟨before, behind⟩
  | ignoring _ inside => exact inside

section Texts

variable {schema : Schema} (typeNames : schema.WellNamed)
include typeNames

/-- No helper is a field of `data`. -/
theorem Helper.after_data {name : String} {type : Ty} (helper : Helper schema name type) :
    after "data." name = none := by
  cases helper with
  | encodeEnumeration name _ | decodeEnumeration name _ =>
    exact after_append_eq_none (by decide) (by decide) _
  | encodeRecord name _ => exact after_append_eq_none (by decide) (by decide) _
  | decodeRecord name declared =>
    refine after_eq_none fun starts => ?_
    have point : '.' ∈ (decoderName (Elm.displayName name)).toList := starts.subset (by decide)
    exact Elm.not_mem_valueName rfl (Elm.isValueName_decoderName (typeNames name declared)) point
  | _ => rfl

namespace Field

variable {field : Field} (inScope : field.InScope schema)
include inScope

/-- **The encoder of a field** reads the field, unless the field is never there. -/
theorem readAccess_encoder :
    readAccess field.encoder = some (if field.presence = .never then [] else [field.name]) := by
  obtain ⟨e, term, typed⟩ := FieldType.term_encoder (Helper schema) typeNames id inScope.type
  have helpers : e.names.filterMap (after "data.") = [] := by
    refine List.filterMap_eq_nil_iff.mpr fun name member => ?_
    obtain ⟨_, helper⟩ := typed.known_of_mem_names name member
    exact helper.after_data typeNames
  have accessed : after "data." field.access = some field.name := after_append _ _
  have access : Argument field.access (.name field.access) :=
    argument_name _ (isQualified_append (by decide) (isQualified_of_isValueName inScope.name))
  have whole : readAccess ("Just <| " ++ field.type.encoder ++ " " ++ field.access) =
      some [field.name] := by
    have read := (argument_name "Just" (by decide)).chain.pipe (term.chain.apply access).whole
    rw [show "Just" ++ " <| " ++ (field.type.encoder ++ " " ++ field.access) =
      "Just <| " ++ field.type.encoder ++ " " ++ field.access by
        rw [← String.append_assoc, ← String.append_assoc]; rfl] at read
    rw [readAccess, read.readExpression_eq, Option.map_some]
    simp only [Expr.names, List.filterMap_append, List.filterMap_cons, List.filterMap_nil, helpers,
      accessed, List.nil_append]
    rfl
  have mapped :
      readAccess ("Maybe.map " ++ Elm.argument field.type.encoder ++ " " ++ field.access) =
        some [field.name] := by
    have start := (argument_name "Maybe.map" (by decide)).chain.apply term.argument
    have read := (start.apply access).whole.readExpression_eq
    rw [show "Maybe.map" ++ " " ++ Elm.argument field.type.encoder = "Maybe.map " ++ _ from rfl]
      at read
    rw [readAccess, read, Option.map_some]
    simp only [Expr.names, List.filterMap_append, List.filterMap_cons, List.filterMap_nil, helpers,
      accessed, List.append_nil]
    rfl
  unfold Field.encoder
  cases field.presence with
  | never =>
    have read := (argument_name "Nothing" (by decide)).chain.whole
    show readAccess "Nothing" = _
    rw [readAccess, read.readExpression_eq]
    rfl
  | now => exact mapped
  | required => exact whole
  | optional default =>
    cases default with
    | some default => exact whole
    | none =>
      show readAccess (if field.type.isValue then field.access else _) = _
      split
      · rw [readAccess, access.chain.whole.readExpression_eq, Option.map_some, Expr.names,
          List.filterMap_cons, accessed]
        rfl
      · exact mapped

omit typeNames inScope in
/-- **The decoder of a field** looks up its key, unless the field is never there. -/
theorem readKey_decoder {text : String} (decoded : field.decoder schema = .ok text) :
    readKey (Elm.argument text) =
      some (if field.presence = .never then none else some field.key) := by
  have looked (lookup start : String) (known : lookup ∈ lookups)
      (found : field.lookup? = some (lookup ++ Elm.stringLiteral field.key ++ start)) :
      readKey (Elm.argument text) = some (some field.key) := by
    rw [Field.decoder, found] at decoded
    obtain ⟨inner, _, rfl⟩ := map_eq_ok_iff.mp decoded
    have texts : lookup ++ Elm.stringLiteral field.key ++ start ++ " " ++ Elm.argument inner =
        lookup ++ (Elm.stringLiteral field.key ++ (start ++ " " ++ Elm.argument inner)) := by
      simp only [String.append_assoc]
    rw [texts, readKey_append known]
  cases presence : field.presence with
  | never =>
    rw [Field.decoder, lookup?, presence] at decoded
    cases decoded
    rw [if_pos rfl]
    decide +kernel
  | now =>
    refine looked "D.map Just <| D.field " "" (by decide) ?_
    rw [lookup?, presence, String.append_empty]
  | required =>
    refine looked "D.field " "" (by decide) ?_
    rw [lookup?, presence, String.append_empty]
  | optional default =>
    cases default with
    | none =>
      refine looked "opField " "" (by decide) ?_
      rw [lookup?, presence, String.append_empty]
    | some default =>
      refine looked "opFieldWithDefault " (" " ++ Elm.argument default.toElm) (by decide) ?_
      rw [lookup?, presence]
      simp only [String.append_assoc]

end Field

end Texts

/-! ### Agreement -/

namespace Record

variable {schema : Schema} {key : String} {decl : RecordDecl} {record : Record}

/-- What is said of the fields of a record is said of its declaration, in the order of the keys. -/
theorem map_fields {α : Type} (resolved : Record.resolve schema key decl = .ok record)
    (image : String → String → Presence → α) :
    record.fields.map (fun field => image field.key field.name field.presence) =
      decl.fields.entries.map fun entry =>
        image entry.1 (Elm.fieldName entry.1) entry.2.presence := by
  have each := fields_resolved resolved
  generalize decl.fields.entries = entries, record.fields = fields at each
  induction each with
  | nil => rfl
  | cons first _ ih =>
    obtain ⟨_, type, _, rfl⟩ := Field.resolve_eq_ok_iff.mp first
    rw [List.map_cons, List.map_cons, ih]

/-- The keys that the decoders of fields look up. -/
theorem mapM_readKey {fields : List Field} {fragments : List String}
    (decoded : List.Forall₂ (fun field fragment => Field.decoder schema field = .ok fragment)
      fields fragments) :
    (fragments.map Elm.argument).mapM readKey =
      some (fields.map fun field => if field.presence = .never then none else some field.key) := by
  induction decoded with
  | nil => rfl
  | cons first _ ih =>
    rw [List.map_cons, List.mapM_cons, Field.readKey_decoder first, ih]
    rfl

/-- The keys of the fields that are not left out. -/
theorem filterMap_present (entries : List (String × FieldDecl)) :
    (entries.map fun entry => if entry.2.presence = .never then none else some entry.1).filterMap
        id = (entries.filter fun entry => entry.2.presence ≠ .never).map (·.1) := by
  induction entries with
  | nil => rfl
  | cons entry rest ih =>
    rw [List.map_cons]
    by_cases absent : entry.2.presence = .never
    · rw [if_pos absent, List.filterMap_cons_none rfl, ih,
        List.filter_cons_of_neg (by simpa using absent)]
    · rw [if_neg absent, List.filterMap_cons_some (show id (some entry.1) = _ from rfl), ih,
        List.filter_cons_of_pos (by simpa using absent), List.map_cons]

/-- **The encoder and the decoder of a record agree on its keys.** The entries of the encoder have
the declared keys, each once and in ascending order. The arguments of the decoder look up those of
them that are not of fields that are never there, in the same order; the expressions of the encoder
read the fields of the same keys, under the names that the type gives them, and no other. -/
theorem keys_agree {name version : String} {declarations : OrderedMap String RecordDecl}
    (built : Schema.build name version declarations = .ok schema)
    (resolved : Record.resolve schema key decl = .ok record)
    (defaults : ∀ field ∈ decl.fields.values, ∀ default,
      field.presence = .optional (some default) → OneLine default.toElm) :
    ∃ fields entries decoder arguments,
      (after record.typeHead record.typeDefinition).bind readFields = some fields ∧
      (after record.encoderHead record.encoder).bind readEntries = some entries ∧
      record.decoder schema = .ok decoder ∧
      (after record.decoderHead decoder).bind readArguments = some arguments ∧
      entries.map (·.1) = decl.fields.keys ∧ decl.fields.keys.Pairwise (· < ·) ∧
      fields.map (·.1) = decl.fields.keys.map Elm.fieldName ∧
      (arguments.mapM readKey).map (·.filterMap id) =
        some ((decl.fields.entries.filter fun entry => entry.2.presence ≠ .never).map (·.1)) ∧
      (entries.mapM fun entry => readAccess entry.2) =
        some (decl.fields.entries.map fun entry =>
          if entry.2.presence = .never then [] else [Elm.fieldName entry.1]) := by
  have typeNames := Schema.wellNamed_of_build built
  have inScope := fields_inScope resolved
  obtain ⟨fragments, decoded⟩ : ∃ fragments,
      List.Forall₂ (fun field fragment => Field.decoder schema field = .ok fragment)
        record.fields fragments :=
    exists_results fun field member => Field.decoder_isOk (inScope field member)
  have single : ∀ fragment ∈ fragments, OneLine fragment := by
    intro fragment member
    obtain ⟨field, inside, fieldDecoded⟩ := exists_item_of_mem decoded member
    obtain ⟨entry, declared, fieldResolved⟩ := exists_item_of_mem (fields_resolved resolved) inside
    obtain ⟨_, type, _, rfl⟩ := Field.resolve_eq_ok_iff.mp fieldResolved
    exact Field.oneLine_decoder typeNames (inScope _ inside)
      (defaults entry.2 (List.mem_map_of_mem declared)) fieldDecoded
  have text : record.decoder schema = .ok (unlines (record.linesWith fragments)) := by
    rw [Record.decoder, Record.decoderLines, mapM_eq_ok_iff.mpr decoded]
    rfl
  refine ⟨_, _, _, _, readFields_typeDefinition typeNames inScope,
    readEntries_encoder typeNames inScope, text,
    readArguments_unlines single decoded.length_eq.symm, ?_, decl.fields.keys_ascending, ?_, ?_, ?_⟩
  · rw [List.map_map]
    exact keys_eq resolved
  · rw [List.map_map, OrderedMap.keys, List.map_map]
    exact map_fields resolved fun _ name _ => name
  · rw [mapM_readKey decoded, Option.map_some,
      map_fields resolved fun key _ presence => if presence = .never then none else some key,
      filterMap_present]
  · have accesses : (record.fields.map fun field => (field.key, field.encoder)).mapM
        (fun entry => readAccess entry.2) = some (record.fields.map fun field =>
          if field.presence = .never then [] else [field.name]) :=
      mapM_map_eq_some fun field member => Field.readAccess_encoder typeNames (inScope field member)
    rw [accesses,
      map_fields resolved fun _ name presence => if presence = .never then [] else [name]]

end Record

/-- The declaration of an event: two of its keys are no names of fields, and one field is never
there. -/
def eventDecl : RecordDecl :=
  { description := ""
    fields := .ofList [("type", ⟨"string", .required⟩), ("of", ⟨"value", .optional none⟩),
      ("x_y", ⟨"int", .never⟩)]
    breaksRecursion := false }

/-- The keys of an event are looked up, apart from that of the field that is never there. -/
theorem event_keys_agree :
    ∃ schema record fields decoder arguments,
      Schema.build "events" "1" (.ofList [("Event", eventDecl)]) = .ok schema ∧
      Record.resolve schema "Event" eventDecl = .ok record ∧
      (after record.typeHead record.typeDefinition).bind readFields = some fields ∧
      fields.map (·.1) = ["of_", "eventType", "xY"] ∧ record.decoder schema = .ok decoder ∧
      (after record.decoderHead decoder).bind readArguments = some arguments ∧
      (arguments.mapM readKey).map (·.filterMap id) = some ["of", "type"] := by
  obtain ⟨schema, built, record, resolved⟩ : ∃ schema,
      Schema.build "events" "1" (.ofList [("Event", eventDecl)]) = .ok schema ∧ ∃ record,
        Record.resolve schema "Event" eventDecl = .ok record := ⟨_, rfl, _, rfl⟩
  have defaults : ∀ field ∈ eventDecl.fields.values, ∀ default,
      field.presence = .optional (some default) → OneLine default.toElm := by
    have none : ∀ field ∈ eventDecl.fields.values,
        field.presence ∈ [Presence.required, .never, .optional none] := by decide
    intro field member default present
    have impossible := none field member
    rw [present] at impossible
    simp at impossible
  obtain ⟨fields, entries, decoder, arguments, fieldsRead, _, decoded, argumentsRead, _, _, names,
    keys, _⟩ := Record.keys_agree built resolved defaults
  refine ⟨schema, record, fields, decoder, arguments, built, resolved, fieldsRead, ?_, decoded,
    argumentsRead, keys.trans ?_⟩
  · rw [names]
    decide +kernel
  · decide +kernel

end ElmCodec
