/-
**Reading generated code line by line.**

* `linesOf` — the lines of a text; `linesOf_unlines` reads back lines that were put together.
* `after`, `between` — what follows a given beginning, and what stands before a given end too.
* `splitName` — an identifier and what follows it.
* `items` — a list with one item a line; `items_leadLines` reads back such a list.
* `readString` — a string literal and what follows it; `readString_append` reads back a literal.
* `afterComment` — what follows a comment.
-/

import Mathlib.Data.List.Infix
import ElmCodec.Codec.Record
import ElmCodec.Proofs.Elm.Names
import ElmCodec.Schema.Build

namespace ElmCodec.Reading

/-! ### Lines -/

/-- Whether a text has no line end. -/
def OneLine (text : String) : Prop := '\n' ∉ text.toList

instance : DecidablePred OneLine := fun text => inferInstanceAs (Decidable ('\n' ∉ text.toList))

theorem oneLine_append {first second : String} :
    OneLine (first ++ second) ↔ OneLine first ∧ OneLine second := by
  rw [OneLine, OneLine, OneLine, String.toList_append, List.mem_append, not_or]

/-- Parentheses around an expression end no line. -/
theorem oneLine_argument {expression : String} (single : OneLine expression) :
    OneLine (Elm.argument expression) := by
  unfold Elm.argument
  split
  · exact oneLine_append.mpr ⟨oneLine_append.mpr ⟨by decide, single⟩, by decide⟩
  · exact single

/-- A character of words put together is one of the separator or of a word. -/
theorem not_mem_intercalate {c : Char} {separator : String} (separated : c ∉ separator.toList)
    {words : List String} (absent : ∀ word ∈ words, c ∉ word.toList) :
    c ∉ (String.intercalate separator words).toList := by
  induction words with
  | nil =>
    rw [String.intercalate_nil]
    exact List.not_mem_nil
  | cons first rest ih =>
    rw [List.forall_mem_cons] at absent
    cases rest with
    | nil =>
      rw [String.intercalate_singleton]
      exact absent.1
    | cons second rest =>
      rw [String.intercalate_cons_cons, String.toList_append, String.toList_append, List.mem_append,
        List.mem_append, not_or, not_or]
      exact ⟨⟨absent.1, separated⟩, ih absent.2⟩

theorem oneLine_intercalate {separator : String} (separated : OneLine separator)
    {words : List String} (single : ∀ word ∈ words, OneLine word) :
    OneLine (String.intercalate separator words) := not_mem_intercalate separated single

theorem oneLine_toString (n : Nat) : OneLine (toString n) := by
  rw [OneLine, Nat.toString_eq_ofList_toDigits, String.toList_ofList (l := Nat.toDigits 10 n)]
  intro member
  exact absurd (Nat.isDigit_of_mem_toDigits (by decide) (by decide) member) (by decide)

theorem oneLine_of_isTypeName {name : String} (valid : Elm.isTypeName name = true) : OneLine name :=
  Elm.not_mem_typeName rfl valid

theorem oneLine_of_isValueName {name : String} (valid : Elm.isValueName name = true) :
    OneLine name := Elm.not_mem_valueName rfl valid

theorem unlines_cons (line : String) (lines : List String) :
    Record.unlines (line :: lines) = line ++ "\n" ++ Record.unlines lines := by
  rw [Record.unlines, List.map_cons, String.join_cons]
  rfl

/-- Lines put together in two parts. -/
theorem unlines_append (first second : List String) :
    Record.unlines (first ++ second) = Record.unlines first ++ Record.unlines second := by
  rw [Record.unlines, List.map_append, String.join_append]
  rfl

/-- The lines of a text, given the beginning of the first one. -/
def linesFrom (line : List Char) : List Char → List String
  | [] => if line.isEmpty then [] else [String.ofList line]
  | c :: rest =>
    if c = '\n' then String.ofList line :: linesFrom [] rest else linesFrom (line ++ [c]) rest

/-- The lines of a text. What follows the last line end is a line unless it is empty. -/
def linesOf (text : String) : List String := linesFrom [] text.toList

theorem linesFrom_append {line : List Char} (single : '\n' ∉ line) (start rest : List Char) :
    linesFrom start (line ++ '\n' :: rest) =
      String.ofList (start ++ line) :: linesFrom [] rest := by
  induction line generalizing start with
  | nil => rw [List.nil_append, linesFrom, if_pos rfl, List.append_nil]
  | cons c line ih =>
    rw [List.mem_cons, not_or] at single
    rw [List.cons_append, linesFrom, if_neg (Ne.symm single.1), ih single.2, List.append_assoc,
      List.singleton_append]

/-- **Lines that were put together** are read back. -/
theorem linesOf_unlines {lines : List String} (single : ∀ line ∈ lines, OneLine line)
    (rest : String) : linesOf (Record.unlines lines ++ rest) = lines ++ linesOf rest := by
  unfold linesOf Record.unlines
  induction lines with
  | nil => rw [List.map_nil, String.join_nil, String.empty_append, List.nil_append]
  | cons line lines ih =>
    rw [List.forall_mem_cons] at single
    rw [List.map_cons, String.join_cons, String.append_assoc, String.append_assoc,
      String.toList_append, String.toList_append]
    show linesFrom [] (line.toList ++ '\n' :: (_ : String).toList) = _
    rw [linesFrom_append single.1, ih single.2, List.nil_append, String.ofList_toList]
    rfl

theorem linesOf_unlines_self {lines : List String} (single : ∀ line ∈ lines, OneLine line) :
    linesOf (Record.unlines lines) = lines := by
  have read := linesOf_unlines single ""
  rw [String.append_empty] at read
  rw [read]
  exact List.append_nil lines

/-! ### Parts of a line -/

/-- What follows a given beginning of a text. -/
def after (start text : String) : Option String :=
  (text.toList.dropPrefix? start.toList).map String.ofList

/-- What stands in a text before a given end. -/
def before (ending text : String) : Option String :=
  (text.toList.dropSuffix? ending.toList).map String.ofList

/-- What stands in a text between a given beginning and a given end. -/
def between (opening closing text : String) : Option String :=
  (after opening text).bind (before closing)

theorem after_append (start rest : String) : after start (start ++ rest) = some rest := by
  rw [after, String.toList_append, List.dropPrefix?_append_of_beq _ (beq_self_eq_true _),
    Option.map_some, String.ofList_toList]

theorem before_append (rest ending : String) : before ending (rest ++ ending) = some rest := by
  have dropped : (rest.toList ++ ending.toList).dropSuffix? ending.toList = some rest.toList :=
    List.dropSuffix?_eq_some_iff.mpr ⟨_, rfl, beq_self_eq_true _⟩
  rw [before, String.toList_append, dropped, Option.map_some, String.ofList_toList]

theorem between_append (opening middle closing : String) :
    between opening closing (opening ++ middle ++ closing) = some middle := by
  rw [between, String.append_assoc, after_append, Option.bind_some, before_append]

/-- A common beginning does not matter for what follows. -/
theorem after_append_append (start other rest : String) :
    after (start ++ other) (start ++ rest) = after other rest := by
  rw [after, after, String.toList_append, String.toList_append]
  generalize start.toList = common
  induction common with
  | nil => rfl
  | cons c common ih =>
    rw [List.cons_append, List.cons_append, List.dropPrefix?, if_pos (beq_self_eq_true c), ih]

theorem after_eq_none {start text : String} (apart : ¬start.toList <+: text.toList) :
    after start text = none := by
  rw [after, Option.map_eq_none_iff, Option.eq_none_iff_forall_ne_some]
  intro rest cut
  obtain ⟨front, whole, same⟩ := List.dropPrefix?_eq_some_iff.mp cut
  exact apart ⟨rest, by rw [whole, eq_of_beq same]⟩

/-- Two texts of which neither starts with the other stay apart with more behind one of them. -/
theorem after_append_eq_none {start other : String} (apart : ¬start.toList <+: other.toList)
    (apart' : ¬other.toList <+: start.toList) (rest : String) :
    after start (other ++ rest) = none := by
  refine after_eq_none fun starts => ?_
  rw [String.toList_append] at starts
  rcases List.prefix_or_prefix_of_prefix starts (List.prefix_append _ _) with short | long
  · exact apart short
  · exact apart' long

/-- No text that starts with a name starts with other characters. -/
theorem after_name_eq_none {name start : String}
    (letters : ∀ c ∈ name.toList, Elm.isNameChar c = true) (named : name.toList ≠ [])
    (inhabited : start.toList ≠ []) (other : start.toList.any Elm.isNameChar = false)
    (rest : String) : after start (name ++ rest) = none := by
  have apart {c : Char} (inStart : c ∈ start.toList) (inName : c ∈ name.toList) : False :=
    List.any_eq_false.mp other c inStart (letters c inName)
  refine after_append_eq_none (fun short => ?_) (fun long => ?_) rest
  · obtain ⟨c, member⟩ := List.exists_mem_of_ne_nil _ inhabited
    exact apart member (short.subset member)
  · obtain ⟨c, member⟩ := List.exists_mem_of_ne_nil _ named
    exact apart (long.subset member) member

/-- An identifier at the beginning of a text, and what follows it. -/
def splitName (text : String) : String × String :=
  (String.ofList (text.toList.takeWhile Elm.isNameChar),
    String.ofList (text.toList.dropWhile Elm.isNameChar))

theorem splitName_append (name rest : String) (letters : ∀ c ∈ name.toList, Elm.isNameChar c = true)
    (ends : ∀ c ∈ rest.toList.head?, Elm.isNameChar c = false) :
    splitName (name ++ rest) = (name, rest) := by
  have stop : rest.toList.takeWhile Elm.isNameChar = [] ∧
      rest.toList.dropWhile Elm.isNameChar = rest.toList := by
    cases chars : rest.toList with
    | nil => exact ⟨rfl, rfl⟩
    | cons c tail =>
      have other := ends c (by rw [chars]; rfl)
      rw [List.takeWhile_cons, List.dropWhile_cons, other]
      exact ⟨rfl, rfl⟩
  rw [splitName, String.toList_append, List.takeWhile_append_of_pos letters,
    List.dropWhile_append_of_pos letters, stop.1, stop.2, List.append_nil, String.ofList_toList,
    String.ofList_toList]

/-- The pieces of a text between the places of a separator. -/
def pieces (separator : Char) (text : String) : List String :=
  (text.toList.splitOn separator).map String.ofList

/-! ### Lists -/

/-- The items of a list after its first one, and the lines that follow the list. -/
def laterItems (indent closing : String) : List String → Option (List String × List String)
  | [] => none
  | line :: rest =>
    match after (indent ++ ", ") line with
    | some item => (laterItems indent closing rest).map fun read => (item :: read.1, read.2)
    | none => if line = indent ++ closing then some ([], rest) else none

/-- The items of a list, and the lines that follow the list. -/
def items (indent opening closing : String) : List String → Option (List String × List String)
  | [] => none
  | line :: rest =>
    (after (indent ++ opening ++ " ") line).bind fun item =>
      (laterItems indent closing rest).map fun read => (item :: read.1, read.2)

theorem laterItems_map {indent closing : String} (closes : after ", " closing = none)
    (lines more : List String) :
    laterItems indent closing
        (lines.map (fun line => indent ++ ", " ++ line) ++ (indent ++ closing) :: more) =
      some (lines, more) := by
  induction lines with
  | nil =>
    rw [List.map_nil, List.nil_append, laterItems, after_append_append, closes]
    exact if_pos rfl
  | cons line rest ih =>
    rw [List.map_cons, List.cons_append, laterItems, after_append]
    simp only [ih, Option.map_some]

/-- **A list with one item a line** is read back. -/
theorem items_leadLines {indent opening closing : String} (closes : after ", " closing = none)
    {lines : List String} (inhabited : lines ≠ []) (more : List String) :
    items indent opening closing
        (Record.leadLines indent opening lines ++ (indent ++ closing) :: more) =
      some (lines, more) := by
  cases lines with
  | nil => exact absurd rfl inhabited
  | cons line rest =>
    rw [Record.leadLines, List.cons_append, items, after_append, Option.bind_some,
      laterItems_map closes, Option.map_some]

/-- The lines of a list are lines when its items are. -/
theorem oneLine_leadLines (indent opening : String) {lines : List String}
    (indented : OneLine indent) (opened : OneLine opening) (single : ∀ line ∈ lines, OneLine line) :
    ∀ line ∈ Record.leadLines indent opening lines, OneLine line := by
  cases lines with
  | nil => exact fun _ => nofun
  | cons first rest =>
    rw [List.forall_mem_cons] at single
    rw [Record.leadLines, List.forall_mem_cons, List.forall_mem_map]
    simp only [oneLine_append]
    exact ⟨⟨⟨⟨indented, opened⟩, by decide⟩, single.1⟩,
      fun line member => ⟨⟨indented, by decide⟩, single.2 line member⟩⟩

/-! ### Comments -/

/-- What follows the end of a comment. -/
def afterClosing : List Char → List Char
  | [] => []
  | '-' :: '}' :: rest => rest
  | _ :: rest => afterClosing rest

/-- A text without the comment at its beginning, if there is one, and its line end. -/
def afterComment (text : String) : String :=
  match after "\x7b-" text with
  | none => text
  | some comment => ((after "\n" (String.ofList (afterClosing comment.toList))).getD "")

theorem hasPart_eq_false_iff {part cs : List Char} :
    hasPart part cs = false ↔ ¬part <:+: cs := by
  induction cs with
  | nil => rw [hasPart, List.infix_nil, List.isEmpty_eq_false_iff]
  | cons c rest ih =>
    rw [hasPart, Bool.or_eq_false_iff, ih, List.infix_cons_iff, not_or, ← Bool.not_eq_true,
      List.isPrefixOf_iff_prefix]

/-- What trimming leaves of a text is a part of it. -/
theorem trimChars_isInfix (cs : List Char) : Text.trimChars cs <:+: cs := by
  have ending : Text.trimChars cs <+: cs.dropWhile Text.isBlank := by
    rw [Text.trimChars, Text.dropEnd, ← List.reverse_suffix, List.reverse_reverse]
    exact List.dropWhile_suffix _
  exact ending.isInfix.trans (List.dropWhile_suffix _).isInfix

/-- Trimming puts no comment delimiter together. -/
theorem hasCommentDelimiter_trim {text : String} (clean : hasCommentDelimiter text = false) :
    hasCommentDelimiter (Text.trim text) = false := by
  unfold hasCommentDelimiter at clean ⊢
  rw [Bool.or_eq_false_iff, hasPart_eq_false_iff, hasPart_eq_false_iff] at clean ⊢
  rw [Text.trim, String.toList_ofList]
  exact ⟨fun inside => clean.1 (inside.trans (trimChars_isInfix _)),
    fun inside => clean.2 (inside.trans (trimChars_isInfix _))⟩

/-- A comment ends at the first place that looks like its end. -/
theorem afterClosing_append {cs : List Char} (unclosed : ¬['-', '}'] <:+: cs) (rest : List Char) :
    afterClosing (cs ++ '\n' :: '-' :: '}' :: rest) = rest := by
  induction cs with
  | nil => rfl
  | cons c cs ih =>
    have later := ih fun inside => unclosed (List.infix_cons inside)
    -- The end is not here: the next character is one of the comment or the line end.
    rw [List.cons_append, afterClosing, later]
    rintro more rfl next
    cases cs with
    | nil => exact absurd (List.cons.inj next).1 (by decide)
    | cons d cs =>
      rw [(List.cons.inj next).1] at unclosed
      exact unclosed (List.prefix_append ['-', '}'] cs).isInfix

/-- **A text after a comment.** -/
theorem afterComment_append {text : String} (clean : hasCommentDelimiter text = false)
    (rest : String) :
    afterComment ("\x7b-| " ++ text ++ "\n-\x7d\n" ++ rest) = rest := by
  have whole : "\x7b-| " ++ text ++ "\n-\x7d\n" ++ rest =
      "\x7b-" ++ ("| " ++ text ++ "\n-\x7d" ++ ("\n" ++ rest)) := by
    rw [← String.toList_inj]
    simp only [String.toList_append, List.append_assoc]
    rfl
  have unclosed : ¬['-', '}'] <:+: ("| " ++ text).toList := by
    rw [hasCommentDelimiter, Bool.or_eq_false_iff, hasPart_eq_false_iff] at clean
    rw [String.toList_append]
    show ¬_ <:+: '|' :: ' ' :: text.toList
    rw [List.infix_cons_iff, List.infix_cons_iff, not_or, not_or]
    exact ⟨by simp, by simp, clean.1⟩
  rw [afterComment, whole, after_append]
  simp only [String.toList_append] at unclosed ⊢
  have closing : "\n-\x7d".toList ++ ("\n".toList ++ rest.toList) =
      '\n' :: '-' :: '}' :: ("\n" ++ rest).toList := by
    rw [String.toList_append]
    rfl
  rw [List.append_assoc, closing, afterClosing_append unclosed, String.ofList_toList, after_append]
  rfl

/-! ### String literals -/

/-- The character that stands for itself after a backslash, or for a line end. -/
def unescape (c : Char) : Option Char :=
  if c = '"' then some '"' else if c = '\\' then some '\\' else if c = 'n' then some '\n' else none

/-- The text up to the closing quote, and what follows it; `escaped` tells whether a backslash
stands before. -/
def quoted (escaped : Bool) : List Char → Option (List Char × List Char)
  | [] => none
  | c :: rest =>
    if escaped then
      (unescape c).bind fun plain =>
        (quoted false rest).map fun read => (plain :: read.1, read.2)
    else if c = '"' then some ([], rest)
    else if c = '\\' then quoted true rest
    else if c = '\n' then none
    else (quoted false rest).map fun read => (c :: read.1, read.2)

/-- A string literal at the beginning of a text, and what follows it. -/
def readString (text : String) : Option (String × String) :=
  (after "\"" text).bind fun inside =>
    (quoted false inside.toList).map fun read => (String.ofList read.1, String.ofList read.2)

theorem quoted_escapeChar (c : Char) (rest : List Char) :
    quoted false (Elm.escapeChar c ++ rest) =
      (quoted false rest).map fun read => (c :: read.1, read.2) := by
  unfold Elm.escapeChar
  split
  · next same => rw [same]; rfl
  · next notQuote =>
    split
    · next same => rw [same]; rfl
    · next notBackslash =>
      split
      · next same => rw [same]; rfl
      · next notEnd =>
        rw [List.singleton_append, quoted, if_neg Bool.false_ne_true, if_neg notQuote,
          if_neg notBackslash, if_neg notEnd]

theorem quoted_escapeChars (cs rest : List Char) :
    quoted false (Elm.escapeChars cs ++ '"' :: rest) = some (cs, rest) := by
  induction cs with
  | nil => rfl
  | cons c cs ih =>
    rw [Elm.escapeChars, List.flatMap_cons, List.append_assoc, quoted_escapeChar]
    rw [Elm.escapeChars] at ih
    rw [ih, Option.map_some]

/-- **A string literal** is read back. -/
theorem readString_append (text rest : String) :
    readString (Elm.stringLiteral text ++ rest) = some (text, rest) := by
  have chars : Elm.stringLiteral text ++ rest =
      "\"" ++ String.ofList (Elm.escapeChars text.toList ++ '"' :: rest.toList) := by
    rw [← String.toList_inj, String.toList_append, String.toList_append, Elm.stringLiteral,
      String.toList_ofList (l := '"' :: _ ++ _), String.toList_ofList (l := _ ++ '"' :: _),
      List.append_assoc]
    rfl
  rw [readString, chars, after_append, Option.bind_some,
    String.toList_ofList (l := _ ++ '"' :: _), quoted_escapeChars, Option.map_some,
    String.ofList_toList, String.ofList_toList]

theorem oneLine_stringLiteral (text : String) : OneLine (Elm.stringLiteral text) := by
  rw [OneLine, Elm.stringLiteral, String.toList_ofList (l := '"' :: _ ++ _), List.mem_append,
    List.mem_cons, Elm.escapeChars, List.mem_flatMap]
  rintro ((quote | ⟨c, _, inside⟩) | quote)
  · exact absurd quote (by decide)
  · unfold Elm.escapeChar at inside
    split at inside
    · exact absurd inside (by decide)
    · split at inside
      · exact absurd inside (by decide)
      · split at inside
        · exact absurd inside (by decide)
        · next other => exact other (List.mem_singleton.mp inside).symm
  · exact absurd quote (by decide)

end ElmCodec.Reading
