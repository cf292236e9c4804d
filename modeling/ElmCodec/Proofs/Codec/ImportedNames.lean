/-
**The names that a module defines beside those that it imports.**

Import lines may expose `Dict`, three helpers, and `Timestamp` with its encoder and its decoder. A
module defines three names for each of its records. No helper is an encoder or a decoder of a type;
what is left are the records that are called `Dict` or `Timestamp`, and a schema may have them.

* `Reading.definedName`, `Reading.importedNames` — what a definition defines and what an import line
  exposes, read from their texts.
* `Import.importedNames_render` — **an import line** exposes the names that it is made for.
* `Usage.disjoint_exposes_iff` — which type names meet the imports of a use.
* `Schema.importedNames_disjoint_iff` — **no definition of a module has an imported name** exactly
  when no record is called `Dict` in a schema with dictionaries, nor `Timestamp` in one with
  timestamps.
-/

import Mathlib.Data.List.DropRight
import ElmCodec.Proofs.Codec.Alignment
import ElmCodec.Proofs.Codec.Definitions
import ElmCodec.Proofs.Codec.ImportBlock

namespace ElmCodec

open Reading

namespace Reading

/-! ### The name of a definition -/

/-- The name that the first line of a definition defines. -/
def nameOnLine (line : String) : Option String :=
  match readSignature line with
  | some signed => some signed.1
  | none => (after "type " line).map fun rest => (splitName ((after "alias " rest).getD rest)).1

/-- The name that a definition defines, read from its first line after a comment. -/
def definedName (definition : String) : Option String :=
  (linesOf (afterComment definition)).head?.bind nameOnLine

/-- The first line of a definition decides. -/
theorem definedName_of_lines {definition line : String} {more : List String}
    (code : afterComment definition = Record.unlines (line :: more)) (single : OneLine line) :
    definedName definition = nameOnLine line := by
  have lines : linesOf (Record.unlines (line :: more)) = line :: linesOf (Record.unlines more) := by
    rw [← List.singleton_append, unlines_append,
      linesOf_unlines (List.forall_mem_singleton.mpr single), List.singleton_append]
  rw [definedName, code, lines]
  rfl

/-- **A signature** starts the definition of its name. -/
theorem definedName_signature {name type : String} (valid : Elm.isValueName name = true)
    (single : OneLine type) (more : List String) :
    definedName (Record.unlines ((name ++ " : " ++ type) :: more)) = some name := by
  have line : OneLine (name ++ " : " ++ type) :=
    oneLine_append.mpr ⟨oneLine_append.mpr ⟨oneLine_of_isValueName valid, by decide⟩, single⟩
  have noComment : afterComment (Record.unlines ((name ++ " : " ++ type) :: more)) =
      Record.unlines ((name ++ " : " ++ type) :: more) := by
    rw [unlines_cons, String.append_assoc, String.append_assoc, String.append_assoc, afterComment,
      after_name_eq_none (fun c member => Elm.isNameChar_of_mem_valueName valid member)
        (Elm.valueName_ne_nil valid) (by decide) (by decide)]
  rw [definedName_of_lines noComment line, nameOnLine, readSignature_append valid]

/-- The word `type` has no colon after it, so the line of a type is no signature. -/
theorem nameOnLine_type {rest : String} (spaced : after ": " rest = none) :
    nameOnLine ("type " ++ rest) = some (splitName ((after "alias " rest).getD rest)).1 := by
  have word : splitName ("type" ++ (" " ++ rest)) = ("type", " " ++ rest) := by
    refine splitName_append _ _ (List.all_eq_true.mp (by decide)) ?_
    rw [String.toList_append]
    rintro c ⟨⟩
    rfl
  have noSignature : readSignature ("type " ++ rest) = none := by
    rw [show "type " = "type" ++ " " from rfl, String.append_assoc, readSignature, word,
      show " : " = " " ++ ": " from rfl, after_append_append, spaced]
    rfl
  rw [nameOnLine, noSignature, after_append, Option.map_some]

end Reading

namespace Record

variable {schema : Schema} {record : Record}

/-- The definitions of a record: its type, its encoder and its decoder. -/
def definitions (schema : Schema) (record : Record) : Except SchemaError (List String) :=
  (record.decoder schema).map fun decoder => [record.typeDefinition, record.encoder, decoder]

theorem render_eq_ok_iff {body : String} :
    record.render schema = .ok body ↔
      ∃ texts, record.definitions schema = .ok texts ∧ String.intercalate "\n\n" texts = body := by
  rw [render, definitions, map_eq_ok_iff]
  simp only [map_eq_ok_iff]
  constructor
  · rintro ⟨decoder, decoded, same⟩
    exact ⟨_, ⟨decoder, decoded, rfl⟩, same⟩
  · rintro ⟨_, ⟨decoder, decoded, rfl⟩, same⟩
    exact ⟨decoder, decoded, same⟩

section Typed

variable (typed : Elm.isTypeName record.typeName = true)
include typed

theorem definedName_typeDefinition (clean : hasCommentDelimiter record.description = false) :
    definedName record.typeDefinition = some record.typeName := by
  have named : OneLine record.typeName := oneLine_of_isTypeName typed
  have letters : ∀ c ∈ record.typeName.toList, Elm.isNameChar c = true := fun c member =>
    Elm.isNameChar_of_mem_typeName typed member
  have code := afterComment_typeDefinition clean
  rw [typeLines] at code
  by_cases own : record.selfReferencing = true
  · have line : OneLine ("type " ++ record.typeName) := oneLine_append.mpr ⟨by decide, named⟩
    have spaced : after ": " record.typeName = none :=
      after_eq_none fun starts =>
        Elm.not_mem_typeName rfl typed (starts.subset (by decide : ':' ∈ _))
    rw [if_pos own] at code
    rw [definedName_of_lines code line, nameOnLine_type spaced, after_alias typed, Option.getD_none,
      splitName_self letters]
  · have line : OneLine ("type alias " ++ record.typeName ++ " =") :=
      oneLine_append.mpr ⟨oneLine_append.mpr ⟨by decide, named⟩, by decide⟩
    have spaced : after ": " ("alias " ++ (record.typeName ++ " =")) = none :=
      after_append_eq_none (by decide) (by decide) _
    have ends : splitName (record.typeName ++ " =") = (record.typeName, " =") :=
      splitName_append _ _ letters (by rintro c ⟨⟩; rfl)
    rw [if_neg own] at code
    rw [definedName_of_lines code line, show "type alias " = "type " ++ "alias " from rfl,
      String.append_assoc, String.append_assoc, nameOnLine_type spaced, after_append,
      Option.getD_some, ends]

/-- **The definitions of a record** define its three names. -/
theorem definedName_definitions (clean : hasCommentDelimiter record.description = false)
    {texts : List String} (rendered : record.definitions schema = .ok texts) :
    texts.mapM definedName = some (definedNames record.typeName) := by
  obtain ⟨decoderText, decoded, rfl⟩ := map_eq_ok_iff.mp rendered
  obtain ⟨lines, linesDecoded, rfl⟩ := map_eq_ok_iff.mp decoded
  obtain ⟨fragments, _, rfl⟩ := map_eq_ok_iff.mp linesDecoded
  have named : OneLine record.typeName := oneLine_of_isTypeName typed
  have encoder : definedName record.encoder = some record.encoderName := by
    rw [Record.encoder, encoderLines, String.append_assoc]
    exact definedName_signature (Elm.isValueName_encoderName typed)
      (oneLine_append.mpr ⟨named, by decide⟩) _
  have decoder : definedName (unlines (record.linesWith fragments)) = some record.decoderName := by
    rw [linesWith, show " : D.Decoder " = " : " ++ "D.Decoder " from rfl, ← String.append_assoc,
      String.append_assoc]
    exact definedName_signature (Elm.isValueName_decoderName typed)
      (oneLine_append.mpr ⟨by decide, named⟩) _
  rw [linesWith] at decoder
  rw [List.mapM_cons, List.mapM_cons, List.mapM_cons, List.mapM_nil,
    definedName_typeDefinition typed clean, encoder, decoder]
  rfl

end Typed

end Record

/-! ### The names of an import line -/

/-- The names that an import line exposes: those between its last parentheses, if it ends so. -/
def Reading.importedNames (line : String) : List String :=
  match between "import " ")" line with
  | none => []
  | some inside =>
    (pieces ',' (String.ofList (inside.toList.rtakeWhile (· != '(')))).map fun name =>
      (after " " name).getD name

/-- What follows the last parenthesis of a text. -/
theorem Reading.rtakeWhile_parenthesis (front : List Char) {inside : List Char}
    (plain : '(' ∉ inside) : (front ++ '(' :: inside).rtakeWhile (· != '(') = inside := by
  have letters : ∀ c ∈ inside.reverse, (c != '(') = true := by
    intro c member
    rw [bne_iff_ne]
    rintro rfl
    exact plain (List.mem_reverse.mp member)
  rw [List.rtakeWhile, List.reverse_append, List.reverse_cons, List.append_assoc,
    List.takeWhile_append_of_pos letters, List.singleton_append, List.takeWhile_cons,
    if_neg (by decide), List.append_nil, List.reverse_reverse]

/-- **Names in the parentheses of an import line** are read back. -/
theorem Reading.importedNames_exposing (front : String) {names : List String}
    (inhabited : names ≠ [])
    (letters : ∀ name ∈ names, name.toList.all Elm.isNameChar = true) :
    importedNames ("import " ++ (front ++ " exposing (" ++ String.intercalate ", " names) ++ ")") =
      names := by
  have absent {c : Char} (other : Elm.isNameChar c = false) :
      ∀ name ∈ names, c ∉ name.toList := by
    intro name member inside
    rw [List.all_eq_true.mp (letters name member) c inside] at other
    cases other
  have plain : '(' ∉ (String.intercalate ", " names).toList :=
    not_mem_intercalate (by decide) (absent (by decide))
  have last : (front ++ " exposing (" ++ String.intercalate ", " names).toList.rtakeWhile
      (· != '(') = (String.intercalate ", " names).toList := by
    rw [String.toList_append, String.toList_append, show " exposing (".toList =
      " exposing ".toList ++ ['('] from rfl, ← List.append_assoc, List.append_assoc,
      List.singleton_append]
    exact rtakeWhile_parenthesis _ plain
  obtain ⟨first, rest, rfl⟩ := List.exists_cons_of_ne_nil inhabited
  have unspaced : after " " first = none :=
    after_eq_none fun starts => absent (by decide) first List.mem_cons_self
      (starts.subset (by decide : ' ' ∈ _))
  rw [importedNames, between_append]
  simp only [last, String.ofList_toList]
  rw [pieces_intercalate_comma first rest (absent (by decide)), List.map_cons, unspaced,
    Option.getD_none, List.map_map]
  congr 1
  refine (List.map_congr_left fun name _ => ?_).trans (List.map_id rest)
  show (after " " (" " ++ name)).getD _ = name
  rw [after_append, Option.getD_some]

/-- An import line whose text tells what it exposes: names, or nothing behind another name of the
module. -/
structure Import.Legible (line : Import) : Prop where
  names : ∀ name ∈ line.exposes, name.toList.all Elm.isNameChar = true
  qualified : line.exposes = [] →
    ∃ qualifier, line.qualifier = some qualifier ∧ Elm.isTypeName qualifier = true

/-- A text that ends with a name ends with no parenthesis. -/
theorem Reading.before_parenthesis_eq_none {name : String} (valid : Elm.isTypeName name = true)
    (front : String) : before ")" (front ++ name) = none := by
  cases read : before ")" (front ++ name) with
  | none => rfl
  | some start =>
    obtain ⟨chars, dropped, rfl⟩ := Option.map_eq_some_iff.mp read
    obtain ⟨ending, cut, same⟩ := List.dropSuffix?_eq_some_iff.mp dropped
    rw [beq_iff_eq.mp same, String.toList_append] at cut
    obtain ⟨init, last, letters⟩ :=
      (List.eq_nil_or_concat name.toList).resolve_left (Elm.typeName_ne_nil valid)
    rw [List.concat_eq_append] at letters
    rw [letters, ← List.append_assoc] at cut
    have closes : last = ')' := List.singleton_inj.mp (List.append_inj' cut rfl).2
    have inside : ')' ∈ name.toList := by
      rw [letters, closes]
      exact List.mem_append_right _ (List.mem_singleton.mpr rfl)
    exact absurd inside (Elm.not_mem_typeName rfl valid)

/-- **An import line** exposes the names that it is made for. -/
theorem Import.importedNames_render {line : Import} (legible : line.Legible) :
    importedNames line.render = line.exposes := by
  by_cases empty : line.exposes = []
  · obtain ⟨qualifier, named, typed⟩ := legible.qualified empty
    have text : line.render = "import " ++ (line.moduleName ++ " as " ++ qualifier) := by
      rw [Import.render, named, empty]
      simp [String.append_assoc]
    have read : between "import " ")" line.render = none := by
      rw [text, between, after_append, Option.bind_some, before_parenthesis_eq_none typed]
    rw [importedNames, read, empty]
  · have exposing : line.exposes.isEmpty = false := List.isEmpty_eq_false_iff.mpr empty
    obtain ⟨front, text⟩ : ∃ front, line.render =
        "import " ++ (front ++ " exposing (" ++ String.intercalate ", " line.exposes) ++ ")" := by
      rw [Import.render, exposing]
      cases line.qualifier with
      | none => exact ⟨line.moduleName, by simp [String.append_assoc]⟩
      | some qualifier =>
        exact ⟨line.moduleName ++ " as " ++ qualifier, by simp [String.append_assoc]⟩
    rw [text, importedNames_exposing front empty legible.names]

/-! ### What the imports of a use expose -/

/-- The names that the imports of a use expose. -/
def Usage.exposes (usage : Usage) : List String :=
  (if usage.dict then ["Dict"] else []) ++ usage.decodeExposing ++
    (if usage.maybeObject then ["maybeObject"] else []) ++
    (if usage.timestamp then definedNames "Timestamp" else [])

/-- Every import line of a module can be read. -/
theorem legible_importsFor (modules : ImportModules) (usage : Usage) :
    ∀ line ∈ importsFor modules usage, line.Legible := by
  have optional {flag : Bool} {line : Import} (legible : flag = true → line.Legible) :
      ∀ other ∈ (if flag then [line] else []), other.Legible := by
    intro other member
    cases flag with
    | false => cases member
    | true =>
      cases List.mem_singleton.mp member
      exact legible rfl
  have decoding : ∀ name ∈ usage.decodeExposing, name.toList.all Elm.isNameChar = true := by
    unfold Usage.decodeExposing
    cases usage.opField <;> cases usage.opFieldWithDefault <;> decide
  have dict : ∀ name ∈ ["Dict"], name.toList.all Elm.isNameChar = true := by decide
  have encoding : ∀ name ∈ ["maybeObject"], name.toList.all Elm.isNameChar = true := by decide
  have timestamps : ∀ name ∈ ["Timestamp", "encodeTimestamp", "timestampDecoder"],
      name.toList.all Elm.isNameChar = true := by
    decide
  simp only [importsFor, List.forall_mem_append, List.forall_mem_cons]
  refine ⟨⟨⟨⟨⟨optional fun _ => ⟨dict, nofun⟩, optional fun used => ⟨decoding, ?_⟩⟩,
    optional fun _ => ⟨encoding, nofun⟩⟩, optional fun _ => ⟨timestamps, nofun⟩⟩,
    optional fun _ => ⟨nofun, fun _ => ⟨_, rfl, by decide⟩⟩⟩,
    ⟨nofun, fun _ => ⟨_, rfl, by decide⟩⟩, ⟨nofun, fun _ => ⟨_, rfl, by decide⟩⟩, nofun⟩
  -- The module of decoding helpers is imported for more arguments if not for a name.
  intro empty
  rw [show usage.decodeExposing = [] from empty, List.isEmpty_nil, Bool.not_true,
    Bool.or_false] at used
  exact ⟨"D", if_pos used, by decide⟩

/-- **The import lines of a use** expose its names. -/
theorem importedNames_importsFor (modules : ImportModules) (usage : Usage) :
    ((importsFor modules usage).map Import.render).flatMap importedNames = usage.exposes := by
  have optional (flag : Bool) (line : Import) :
      (if flag then [line] else []).flatMap (·.exposes) = if flag then line.exposes else [] := by
    cases flag with
    | false => rfl
    | true => exact List.append_nil _
  have decoding : (if usage.needsExtendedArity || !usage.decodeExposing.isEmpty then
      usage.decodeExposing else []) = usage.decodeExposing := by
    by_cases empty : usage.decodeExposing = []
    · rw [empty, ite_self]
    · rw [List.isEmpty_eq_false_iff.mpr empty, Bool.not_false, Bool.or_true, if_pos rfl]
  have enums : (if usage.enums then ([] : List String) else []) = [] := ite_self _
  rw [List.flatMap_map, List.flatMap_congr fun line member =>
    Import.importedNames_render (legible_importsFor modules usage line member)]
  simp only [importsFor, List.flatMap_append, optional, decoding, enums, List.flatMap_cons,
    List.flatMap_nil, List.append_nil]
  rfl

section Valid

variable {typeName : String} (valid : Elm.isTypeName typeName = true)
include valid

/-- Of the names of a type, only its own is the name of a type. -/
theorem mem_definedNames_iff {other : String} (typed : Elm.isTypeName other = true) :
    other ∈ definedNames typeName ↔ other = typeName := by
  have encoder := Elm.typeName_ne_valueName typed (Elm.isValueName_encoderName valid)
  have decoder := Elm.typeName_ne_valueName typed (Elm.isValueName_decoderName valid)
  rw [definedNames, List.mem_cons, List.mem_cons, List.mem_singleton]
  exact or_iff_left (not_or.mpr ⟨encoder, decoder⟩)

/-- A name of a value is an encoder or a decoder only if it begins or ends so. -/
theorem not_mem_definedNames {helper : String} (value : Elm.isValueName helper = true)
    (begins : helper.toList.head? ≠ some 'e') (ends : helper.toList.getLast? ≠ some 'r') :
    helper ∉ definedNames typeName := by
  rw [definedNames, List.mem_cons, List.mem_cons, List.mem_singleton]
  rintro (same | rfl | rfl)
  · exact Elm.typeName_ne_valueName valid value same.symm
  · rw [Elm.toList_encoderName] at begins
    exact begins rfl
  · rw [Elm.toList_decoderName, List.getLast?_append] at ends
    exact ends rfl

/-- No other type shares a name with that of timestamps. -/
theorem disjoint_timestamp (unlike : typeName ≠ "Timestamp") :
    (definedNames typeName).Disjoint (definedNames "Timestamp") := by
  rw [definedNames_disjoint_iff valid (by decide) unlike]
  constructor
  · rintro ⟨x, _, starts⟩
    have first := congrArg (fun name : String => name.toList.head?) starts
    rw [String.toList_append] at first
    cases first
  · rintro ⟨x, ends, _⟩
    have last := congrArg (fun name : String => name.toList.getLast?) ends
    rw [String.toList_append, List.getLast?_append] at last
    cases last

end Valid

section TypeNames

variable {typeNames : List String}
variable (valid : ∀ typeName ∈ typeNames, Elm.isTypeName typeName = true)
include valid

theorem disjoint_dict_iff :
    (typeNames.flatMap definedNames).Disjoint ["Dict"] ↔ "Dict" ∉ typeNames := by
  rw [List.disjoint_singleton, not_iff_not, List.mem_flatMap]
  constructor
  · rintro ⟨typeName, member, inside⟩
    rw [mem_definedNames_iff (valid typeName member) (by decide)] at inside
    exact inside ▸ member
  · intro member
    exact ⟨"Dict", member, List.mem_cons_self⟩

theorem disjoint_timestamp_iff :
    (typeNames.flatMap definedNames).Disjoint (definedNames "Timestamp") ↔
      "Timestamp" ∉ typeNames := by
  constructor
  · intro apart member
    exact apart (List.mem_flatMap.mpr ⟨_, member, List.mem_cons_self⟩) List.mem_cons_self
  · intro absent name defined
    obtain ⟨typeName, member, inside⟩ := List.mem_flatMap.mp defined
    exact disjoint_timestamp (valid typeName member) (fun same => absent (same ▸ member)) inside

/-- The helpers are encoders or decoders of no type. -/
theorem disjoint_helper {helper : String}
    (known : helper ∈ ["opField", "opFieldWithDefault", "maybeObject"]) :
    (typeNames.flatMap definedNames).Disjoint [helper] := by
  have shape : ∀ helper ∈ ["opField", "opFieldWithDefault", "maybeObject"],
      Elm.isValueName helper = true ∧ helper.toList.head? ≠ some 'e' ∧
        helper.toList.getLast? ≠ some 'r' := by
    decide
  obtain ⟨value, begins, ends⟩ := shape helper known
  rw [List.disjoint_singleton, List.mem_flatMap]
  rintro ⟨typeName, member, inside⟩
  exact not_mem_definedNames (valid typeName member) value begins ends inside

/-- **Which types meet the imports of a use**: those called `Dict` or `Timestamp`, if the use has
dictionaries or timestamps. -/
theorem Usage.disjoint_exposes_iff (usage : Usage) :
    (typeNames.flatMap definedNames).Disjoint usage.exposes ↔
      ¬(("Dict" ∈ typeNames ∧ usage.dict = true) ∨
        ("Timestamp" ∈ typeNames ∧ usage.timestamp = true)) := by
  have whenUsed (flag : Bool) (others : List String) :
      (typeNames.flatMap definedNames).Disjoint (if flag then others else []) ↔
        (flag = true → (typeNames.flatMap definedNames).Disjoint others) := by
    cases flag <;> simp
  have decoding : (typeNames.flatMap definedNames).Disjoint usage.decodeExposing := by
    rw [decodeExposing, List.disjoint_append_right, whenUsed, whenUsed]
    exact ⟨fun _ => disjoint_helper valid (by decide), fun _ => disjoint_helper valid (by decide)⟩
  have encoding : (typeNames.flatMap definedNames).Disjoint
      (if usage.maybeObject then ["maybeObject"] else []) :=
    (whenUsed _ _).mpr fun _ => disjoint_helper valid (by decide)
  rw [exposes, List.disjoint_append_right, List.disjoint_append_right, List.disjoint_append_right,
    and_iff_left encoding, and_iff_left decoding, whenUsed, whenUsed, disjoint_dict_iff valid,
    disjoint_timestamp_iff valid, not_or, not_and', not_and']

end TypeNames

/-! ### The names of a module and of its imports -/

namespace Schema

/-- The bodies of a module are made of the definitions of its records. -/
theorem exists_definitions {schema : Schema} {records : List Record} {bodies : List String}
    (rendered : records.mapM (Record.render schema) = .ok bodies) :
    ∃ texts, records.mapM (Record.definitions schema) = .ok texts ∧
      texts.map (String.intercalate "\n\n") = bodies := by
  rw [mapM_eq_ok_iff] at rendered
  simp only [mapM_eq_ok_iff]
  induction rendered with
  | nil => exact ⟨[], .nil, rfl⟩
  | cons first _ ih =>
    obtain ⟨texts, defined, rfl⟩ := Record.render_eq_ok_iff.mp first
    obtain ⟨more, others, rfl⟩ := ih
    exact ⟨texts :: more, .cons defined others, rfl⟩

/-- The definitions of records define the names of their types. -/
theorem definedName_flatten {schema : Schema} {records : List Record} {texts : List (List String)}
    (named : ∀ record ∈ records, Elm.isTypeName record.typeName = true ∧
      hasCommentDelimiter record.description = false)
    (rendered : records.mapM (Record.definitions schema) = .ok texts) :
    texts.flatten.mapM definedName = some ((records.map (·.typeName)).flatMap definedNames) := by
  rw [mapM_eq_ok_iff] at rendered
  induction rendered with
  | nil => rfl
  | cons first _ ih =>
    rw [List.forall_mem_cons] at named
    rw [List.flatten_cons, List.mapM_append,
      Record.definedName_definitions named.1.1 named.1.2 first, ih named.2, List.map_cons,
      List.flatMap_cons]
    rfl

variable {name version : String} {declarations : OrderedMap String RecordDecl} {schema : Schema}
variable {modules : ImportModules} {moduleName : String} {time : Int}

/-- **No name that a module defines is one that it imports**, exactly when no record is called
`Dict` in a schema with dictionaries and none is called `Timestamp` in a schema with timestamps. The
names are read from the definitions and from the import lines; those of the definitions are also
those that the module exposes. -/
theorem importedNames_disjoint_iff (built : Schema.build name version declarations = .ok schema)
    {text : String} (emitted : schema.emit modules moduleName time = .ok text) :
    ∃ records texts names, schema.sortedRecords = .ok records ∧
      records.mapM (Record.definitions schema) = .ok texts ∧
      text = Record.unlines (declarationLines moduleName records) ++ "\n" ++ schema.header time ++
        "\n" ++ String.intercalate "\n" (schema.importLines modules) ++ "\n\n\n" ++
        String.intercalate "\n\n" (texts.map (String.intercalate "\n\n")) ∧
      texts.flatten.mapM definedName = some names ∧ exposedNames text = some names ∧
      (names.Disjoint ((schema.importLines modules).flatMap importedNames) ↔
        ¬(("Dict" ∈ declarations.keys.map Elm.displayName ∧
            schema.UsesType fun type => ∃ element, type = .dict element) ∨
          ("Timestamp" ∈ declarations.keys.map Elm.displayName ∧
            schema.UsesType fun type => type = .timestamp))) := by
  obtain ⟨records, bodies, sorted, rendered, same, validModule, nonempty⟩ :=
    sortedRecords_of_emit built emitted
  obtain ⟨texts, defined, rfl⟩ := exists_definitions rendered
  obtain ⟨_, inhabited, _⟩ := emit_eq_ok_iff.mp emitted
  have lines := render_importsFor built sorted inhabited modules
  have valid : ∀ record ∈ records, Elm.isTypeName record.typeName = true := fun record member =>
    typeName_of_mem_sortedRecords built sorted member
  have named : ∀ record ∈ records, Elm.isTypeName record.typeName = true ∧
      hasCommentDelimiter record.description = false := by
    intro record member
    obtain ⟨key, decl, found, resolved⟩ := (mem_sortedRecords_iff built sorted).mp member
    exact ⟨valid record member, Record.description_clean built found resolved⟩
  have typeNames (typeName : String) : typeName ∈ records.map (·.typeName) ↔
      typeName ∈ declarations.keys.map Elm.displayName := by
    obtain ⟨resolved, each, perm⟩ := sortedRecords_perm built sorted
    rw [(perm.map (·.typeName)).mem_iff, typeNames_of_resolved each, ← keys_of_build built,
      OrderedMap.keys]
  have usesDict : (usageOf records).dict = true ↔
      schema.UsesType fun type => ∃ element, type = .dict element := raised_iff built sorted .dict
  have usesTimestamp : (usageOf records).timestamp = true ↔
      schema.UsesType fun type => type = .timestamp := raised_iff built sorted .timestamp
  refine ⟨records, texts, _, sorted, defined, ?_, definedName_flatten named defined, ?_, ?_⟩
  · rw [← same, assemble, renderImports, lines]
  · rw [← same]
    exact exposedNames_assemble validModule nonempty valid
  · rw [← lines, importedNames_importsFor,
      Usage.disjoint_exposes_iff (List.forall_mem_map.mpr valid), typeNames, typeNames,
      usesDict, usesTimestamp]

/-- A module with dictionaries and timestamps and one record, called otherwise. -/
theorem importedNames_disjoint_shelf :
    ∃ schema text names, Schema.build "shelf" "1" shelf = .ok schema ∧
      schema.emit {} "Shelf" 0 = .ok text ∧ exposedNames text = some names ∧
        names.Disjoint ((schema.importLines {}).flatMap importedNames) := by
  have built : Schema.build "shelf" "1" shelf = .ok ⟨"shelf", "1", shelf⟩ := rfl
  obtain ⟨text, emitted⟩ : ∃ text, Schema.emit ⟨"shelf", "1", shelf⟩ {} "Shelf" 0 = .ok text :=
    ⟨_, rfl⟩
  obtain ⟨records, texts, names, _, _, _, _, exposed, apart⟩ :=
    importedNames_disjoint_iff built emitted
  refine ⟨_, text, names, built, emitted, exposed, apart.mpr ?_⟩
  have types : shelf.keys.map Elm.displayName = ["Shelf"] := by decide +kernel
  rw [types]
  rintro (⟨dict, _⟩ | ⟨timestamp, _⟩)
  · exact absurd dict (by decide)
  · exact absurd timestamp (by decide)

/-- The declarations of one record, called `Dict`, with a dictionary in its field. -/
def dictDeclarations : OrderedMap String RecordDecl :=
  .ofList [("Dict",
    { description := "", fields := .ofList [("a", ⟨"\x7bint\x7d", .required⟩)]
      breaksRecursion := false })]

/-- **A record called `Dict`** with a dictionary in a field: the module exposes and imports one
name. -/
theorem importedNames_clash :
    ∃ schema text names, Schema.build "words" "1" dictDeclarations = .ok schema ∧
      schema.emit {} "Words" 0 = .ok text ∧ exposedNames text = some names ∧
        (∃ front back, text = front ++ "\n" ++ String.intercalate "\n" (schema.importLines {}) ++
          "\n" ++ back) ∧
        ¬names.Disjoint ((schema.importLines {}).flatMap importedNames) := by
  have built : Schema.build "words" "1" dictDeclarations =
    .ok ⟨"words", "1", dictDeclarations⟩ := rfl
  obtain ⟨text, emitted⟩ : ∃ text, Schema.emit ⟨"words", "1", dictDeclarations⟩ {} "Words" 0 =
    .ok text := ⟨_, rfl⟩
  obtain ⟨records, bodies, sorted, _, same, _⟩ := sortedRecords_of_emit built emitted
  obtain ⟨typeNames, perm, read⟩ := exposedNames_of_emit built emitted
  have lines := render_importsFor built sorted rfl {}
  have defined : "Dict" ∈ typeNames.flatMap definedNames := by
    rw [(perm.flatMap_right definedNames).mem_iff]
    decide +kernel
  have used : (usageOf records).dict = true :=
    (raised_iff built sorted .dict).mpr ⟨.dict .int, .required,
      ⟨"Dict", _, rfl, ⟨"\x7bint\x7d", .required⟩, by decide, rfl, rfl⟩, _, .here, _, rfl⟩
  have imported : "Dict" ∈ (usageOf records).exposes := by
    rw [Usage.exposes, if_pos used]
    exact List.mem_cons_self
  refine ⟨_, text, _, built, emitted, read, ⟨Record.unlines (declarationLines "Words" records) ++
    "\n" ++ Schema.header ⟨"words", "1", dictDeclarations⟩ 0,
    "\n\n" ++ String.intercalate "\n\n" bodies, ?_⟩, ?_⟩
  · rw [← lines, ← same, assemble, renderImports, show "\n\n\n" = "\n" ++ "\n\n" from rfl]
    simp only [String.append_assoc]
  · rw [← lines, importedNames_importsFor]
    exact fun apart => apart defined imported

end Schema

end ElmCodec
