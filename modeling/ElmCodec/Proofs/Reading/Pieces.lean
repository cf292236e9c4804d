/-
**Reading back the three pieces of a record.**

The type, the encoder and the decoder of a record are read from their texts without a look at the
record that they were made of.

* `readAssignments_intercalate`, `readResult_append` — **a record literal** is read back.
* `readType` — the names and types of the fields.
* `readEncoder` — the keys and the expressions for their values.
* `readDecoder` — the function that combines, the variables, the record literal and the arguments.
-/

import ElmCodec.Proofs.Reading.Lines

namespace ElmCodec.Reading

/-! ### Items -/

theorem mapM_map_eq_some {α β γ : Type} {print : α → β} {read : β → Option γ} {image : α → γ}
    {list : List α} (each : ∀ item ∈ list, read (print item) = some (image item)) :
    (list.map print).mapM read = some (list.map image) := by
  induction list with
  | nil => rfl
  | cons item rest ih =>
    rw [List.forall_mem_cons] at each
    rw [List.map_cons, List.mapM_cons, each.1, ih each.2]
    rfl

/-- A name and what stands after a colon. -/
def readSignature (line : String) : Option (String × String) :=
  (after " : " (splitName line).2).map fun type => ((splitName line).1, type)

theorem readSignature_append {name : String} (valid : Elm.isValueName name = true) (type : String) :
    readSignature (name ++ " : " ++ type) = some (name, type) := by
  have split := splitName_append name (" : " ++ type)
    (fun c member => Elm.isNameChar_of_mem_valueName valid member) (by
      rw [String.toList_append]
      rintro c ⟨⟩
      rfl)
  rw [readSignature, String.append_assoc, split, after_append, Option.map_some]

/-- A name and what is assigned to it. -/
def readAssignment (item : String) : Option (String × String) :=
  (after " = " (splitName item).2).map fun value => ((splitName item).1, value)

theorem readAssignment_append {name : String} (valid : Elm.isValueName name = true)
    (value : String) : readAssignment (name ++ " = " ++ value) = some (name, value) := by
  have split := splitName_append name (" = " ++ value)
    (fun c member => Elm.isNameChar_of_mem_valueName valid member) (by
      rw [String.toList_append]
      rintro c ⟨⟩
      rfl)
  rw [readAssignment, String.append_assoc, split, after_append, Option.map_some]

/-- The assignments of a record literal, given what stands between its braces. -/
def readAssignments (text : String) : Option (List (String × String)) :=
  match pieces ',' text with
  | [] => none
  | first :: rest =>
    (readAssignment first).bind fun head =>
      (rest.mapM fun item => (after " " item).bind readAssignment).map (head :: ·)

/-- A constructor, if there is one, and the assignments of the record literal after it. -/
def readResult (text : String) : Option (Option String × List (String × String)) :=
  if (splitName text).1 = "" then
    (between "\x7b " " \x7d" text).bind fun inside => (readAssignments inside).map (none, ·)
  else
    (between " \x7b " " \x7d" (splitName text).2).bind fun inside =>
      (readAssignments inside).map (some (splitName text).1, ·)

theorem pieces_intercalate (separator : Char) {words : List String} (inhabited : words ≠ [])
    (clear : ∀ word ∈ words, separator ∉ word.toList) :
    pieces separator (String.intercalate (String.singleton separator) words) = words := by
  rw [pieces, String.toList_intercalate, String.toList_singleton,
    List.splitOn_intercalate separator (by simpa using clear) (by simpa using inhabited),
    List.map_map]
  exact List.map_id'' (fun word => String.ofList_toList) words

theorem pieces_intercalate_comma (first : String) (rest : List String)
    (clear : ∀ item ∈ first :: rest, ',' ∉ item.toList) :
    pieces ',' (String.intercalate ", " (first :: rest)) = first :: rest.map (" " ++ ·) := by
  -- The separator is longer than the character that texts are cut at: its space stays with the
  -- item after it.
  unfold pieces
  induction rest generalizing first with
  | nil =>
    rw [String.intercalate_singleton, List.splitOn_eq_singleton (clear first List.mem_cons_self),
      List.map_singleton, String.ofList_toList]
    rfl
  | cons second rest ih =>
    rw [List.forall_mem_cons] at clear
    have chars : (", " ++ String.intercalate ", " (second :: rest)).toList =
        ',' :: ' ' :: (String.intercalate ", " (second :: rest)).toList := by
      rw [String.toList_append]
      rfl
    have later := ih second clear.2
    rw [String.intercalate_cons_cons, String.append_assoc, String.toList_append, chars,
      List.splitOn_append_cons_self_of_not_mem clear.1, List.splitOn_cons_eq_if_modifyHead,
      if_neg (by decide), List.map_cons, String.ofList_toList, List.map_cons]
    cases split : (String.intercalate ", " (second :: rest)).toList.splitOn ',' with
    | nil => exact absurd split (List.splitOn_ne_nil _ _)
    | cons head tail =>
      rw [split, List.map_cons] at later
      obtain ⟨same, others⟩ := List.cons.inj later
      have spaced : String.ofList (' ' :: head) = " " ++ second := by
        rw [← same, ← String.toList_inj, String.toList_append,
          String.toList_ofList (l := ' ' :: head), String.toList_ofList (l := head)]
        rfl
      rw [List.modifyHead_cons, List.map_cons, others, spaced]

/-- **The assignments of a record literal** are read back. -/
theorem readAssignments_intercalate {pairs : List (String × String)} (inhabited : pairs ≠ [])
    (names : ∀ pair ∈ pairs, Elm.isValueName pair.1 = true)
    (values : ∀ pair ∈ pairs, Elm.isValueName pair.2 = true) :
    readAssignments (String.intercalate ", " (pairs.map fun pair => pair.1 ++ " = " ++ pair.2)) =
      some pairs := by
  have clear : ∀ pair ∈ pairs, ',' ∉ (pair.1 ++ " = " ++ pair.2).toList := by
    intro pair member
    rw [String.toList_append, String.toList_append, List.mem_append, List.mem_append, not_or,
      not_or]
    exact ⟨⟨Elm.not_mem_valueName rfl (names pair member), by decide⟩,
      Elm.not_mem_valueName rfl (values pair member)⟩
  have one : ∀ pair ∈ pairs, readAssignment (pair.1 ++ " = " ++ pair.2) = some pair :=
    fun pair member => readAssignment_append (names pair member) pair.2
  cases pairs with
  | nil => exact absurd rfl inhabited
  | cons first rest =>
    rw [List.forall_mem_cons] at one
    have later : ((rest.map fun pair => pair.1 ++ " = " ++ pair.2).map (" " ++ ·)).mapM
        (fun item => (after " " item).bind readAssignment) = some (rest.map id) := by
      rw [List.map_map]
      refine mapM_map_eq_some fun pair member => ?_
      show (after " " (" " ++ (pair.1 ++ " = " ++ pair.2))).bind readAssignment = some pair
      rw [after_append, Option.bind_some, one.2 pair member]
    have items : ∀ item ∈ (first.1 ++ " = " ++ first.2) ::
        rest.map (fun pair => pair.1 ++ " = " ++ pair.2), ',' ∉ item.toList := by
      rw [List.forall_mem_cons, List.forall_mem_map]
      exact List.forall_mem_cons.mp clear
    rw [readAssignments, List.map_cons, pieces_intercalate_comma _ _ items]
    show (readAssignment _).bind _ = _
    rw [one.1, Option.bind_some, later, Option.map_some, List.map_id]

/-- What stands before a record literal: a constructor, if there is one. -/
def constructorText : Option String → String
  | some name => name ++ " "
  | none => ""

/-- **A record literal**, after a constructor if there is one, is read back. -/
theorem readResult_append (constructor : Option String) {pairs : List (String × String)}
    (inhabited : pairs ≠ []) (valid : ∀ name ∈ constructor, Elm.isTypeName name = true)
    (names : ∀ pair ∈ pairs, Elm.isValueName pair.1 = true)
    (values : ∀ pair ∈ pairs, Elm.isValueName pair.2 = true) :
    readResult (constructorText constructor ++
      ("\x7b " ++ String.intercalate ", " (pairs.map fun pair => pair.1 ++ " = " ++ pair.2) ++
        " \x7d")) = some (constructor, pairs) := by
  have assignments := readAssignments_intercalate inhabited names values
  generalize String.intercalate ", " (pairs.map fun pair => pair.1 ++ " = " ++ pair.2) = inside
    at assignments
  cases constructor with
  | none =>
    have split := splitName_append "" ("\x7b " ++ inside ++ " \x7d") (by simp) (by
      rw [String.append_assoc, String.toList_append]
      rintro c ⟨⟩
      rfl)
    rw [constructorText, readResult, String.empty_append, ← String.empty_append (s := _ ++ _),
      split, if_pos rfl, String.empty_append, between_append, Option.bind_some, assignments,
      Option.map_some]
  | some name =>
    have typeName := valid name rfl
    have split := splitName_append name (" \x7b " ++ inside ++ " \x7d")
      (fun c member => Elm.isNameChar_of_mem_typeName typeName member) (by
        rw [String.append_assoc, String.toList_append]
        rintro c ⟨⟩
        rfl)
    have whole : name ++ " " ++ ("\x7b " ++ inside ++ " \x7d") =
        name ++ (" \x7b " ++ inside ++ " \x7d") := by
      rw [← String.toList_inj]
      simp only [String.toList_append, List.append_assoc]
      rfl
    have named : name ≠ "" := by
      rintro rfl
      cases typeName
    rw [constructorText, whole, readResult, split, if_neg named, between_append, Option.bind_some,
      assignments, Option.map_some]

/-! ### The pieces of a record -/

/-- The items of a list that nothing follows. -/
def wholeList (indent opening closing : String) (lines : List String) : Option (List String) :=
  (items indent opening closing lines).bind fun read =>
    if read.2.isEmpty then some read.1 else none

theorem wholeList_leadLines (indent opening closing : String) (closes : after ", " closing = none)
    {lines : List String} (inhabited : lines ≠ []) :
    wholeList indent opening closing
        (Record.leadLines indent opening lines ++ [indent ++ closing]) = some lines := by
  rw [wholeList, items_leadLines closes inhabited, Option.bind_some]
  rfl

/-- What the text of a type says. -/
structure TypeText where
  name : String
  constructor : Option String
  /-- Names and types of the fields. -/
  fields : List (String × String)
  deriving DecidableEq

/-- The type of a record with fields. -/
def readType (text : String) : Option TypeText :=
  match linesOf (afterComment text) with
  | [] => none
  | head :: rest =>
    match between "type alias " " =" head with
    | some name =>
      (wholeList "    " "\x7b" "\x7d" rest).bind fun lines =>
        (lines.mapM readSignature).map fun fields => ⟨name, none, fields⟩
    | none =>
      match rest with
      | [] => none
      | line :: rest =>
        (after "type " head).bind fun name =>
          (after "    = " line).bind fun constructor =>
            (wholeList "        " "\x7b" "\x7d" rest).bind fun lines =>
              (lines.mapM readSignature).map fun fields => ⟨name, some constructor, fields⟩

/-- What the text of an encoder says. -/
structure EncoderText where
  name : String
  typeName : String
  pattern : String
  /-- Keys and the expressions for their values. -/
  entries : List (String × String)
  deriving DecidableEq

/-- A key and the expression for its value. -/
def readEntry (item : String) : Option (String × String) :=
  (between "( " " )" item).bind fun inside =>
    (readString inside).bind fun read =>
      (after ", " read.2).map fun expression => (read.1, expression)

theorem readEntry_append (key expression : String) :
    readEntry ("( " ++ Elm.stringLiteral key ++ ", " ++ expression ++ " )") =
      some (key, expression) := by
  have whole : "( " ++ Elm.stringLiteral key ++ ", " ++ expression ++ " )" =
      "( " ++ (Elm.stringLiteral key ++ (", " ++ expression)) ++ " )" := by
    rw [← String.toList_inj]
    simp only [String.toList_append, List.append_assoc]
  rw [readEntry, whole, between_append, Option.bind_some, readString_append, Option.bind_some,
    after_append, Option.map_some]

/-- The encoder of a record with fields. -/
def readEncoder (text : String) : Option EncoderText :=
  match linesOf text with
  | signature :: head :: function :: rest =>
    (readSignature signature).bind fun signed =>
      (before " -> E.Value" signed.2).bind fun typeName =>
        (between (signed.1 ++ " ") " =" head).bind fun pattern =>
          if function = "    maybeObject" then
            (wholeList "        " "[" "]" rest).bind fun lines =>
              (lines.mapM readEntry).map fun entries => ⟨signed.1, typeName, pattern, entries⟩
          else none
  | _ => none

/-- What the text of a decoder says. -/
structure DecoderText where
  name : String
  typeName : String
  /-- The function that combines the decoders of the fields. -/
  combinator : String
  /-- The variables of the function that makes the record. -/
  binders : List String
  /-- What stands before the record literal. -/
  constructor : Option String
  /-- Names of fields and what the record literal assigns to them. -/
  assignments : List (String × String)
  /-- The decoders of the fields. -/
  arguments : List String
  deriving DecidableEq

/-- The decoder of a record with fields. -/
def readDecoder (text : String) : Option DecoderText :=
  match linesOf text with
  | signature :: head :: function :: lambda :: body :: closing :: rest =>
    (readSignature signature).bind fun signed =>
      (after "D.Decoder " signed.2).bind fun typeName =>
        (after "    " function).bind fun combinator =>
          (between "        (\\" " ->" lambda).bind fun binders =>
            (after "            " body).bind fun made =>
              (readResult made).bind fun result =>
                if head = signed.1 ++ " =" ∧ closing = "        )" then
                  (rest.mapM (after "        ")).map fun arguments =>
                    ⟨signed.1, typeName, combinator, pieces ' ' binders, result.1, result.2,
                      arguments⟩
                else none
  | _ => none

end ElmCodec.Reading
