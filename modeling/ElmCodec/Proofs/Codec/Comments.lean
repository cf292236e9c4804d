/-
**Comments end where they should.**

The name and the version of a schema stand in the comment at the head of its module, and the
description of a record in the comment before its type. A comment is closed by the first `-}`, and
a `{-` in it opens another one, so neither may come from a text of the schema.

* `occurrences` — the number of places where a part of a text starts.
* `occurrences_separated` — a character that is in no delimiter keeps two texts apart.
* `IsComment` — a comment whose delimiters stand at its ends and nowhere else.
* `isComment_header_iff` — the comment at the head of a module.
* `isComment_docComment` — the comment of a record.
* `comments_closed_iff` — **every comment of a module is closed at its end** exactly when the
  version of the schema has no delimiter.
-/

import Mathlib.Data.List.Infix
import ElmCodec.Proofs.Codec.Alignment
import ElmCodec.Proofs.Codec.Emitted
import ElmCodec.Proofs.Schema.Documents

namespace ElmCodec

open Reading

/-! ### Counting the places of a part -/

/-- The number of places of a text where a part starts. -/
def occurrences (part cs : List Char) : Nat := cs.tails.countP fun tail => part.isPrefixOf tail

theorem occurrences_cons (part : List Char) (c : Char) (cs : List Char) :
    occurrences part (c :: cs) =
      (if part.isPrefixOf (c :: cs) then 1 else 0) + occurrences part cs := by
  unfold occurrences
  rw [List.tails_cons, List.countP_cons, Nat.add_comm]

theorem occurrences_eq_zero_iff {part cs : List Char} :
    occurrences part cs = 0 ↔ hasPart part cs = false := by
  unfold occurrences
  rw [hasPart_eq_false_iff, List.countP_eq_zero, List.infix_iff_prefix_suffix]
  constructor
  · rintro nowhere ⟨tail, starts, inside⟩
    exact nowhere tail ((List.mem_tails _ _).mpr inside) (List.isPrefixOf_iff_prefix.mpr starts)
  · intro absent tail member starts
    exact absent ⟨tail, List.isPrefixOf_iff_prefix.mp starts, (List.mem_tails _ _).mp member⟩

section Pairs

variable {first second : Char}

/-- **A character that is not in a delimiter** keeps the texts around it apart. -/
theorem occurrences_separated {c : Char} (notFirst : c ≠ first) (notSecond : c ≠ second)
    (before after : List Char) :
    occurrences [first, second] (before ++ c :: after) =
      occurrences [first, second] before + occurrences [first, second] after := by
  induction before with
  | nil => simp [occurrences, Ne.symm notFirst]
  | cons d rest ih =>
    -- Whether the delimiter starts here shows in two characters, of which the second may be `c`.
    have here : [first, second].isPrefixOf (d :: (rest ++ c :: after)) =
        [first, second].isPrefixOf (d :: rest) := by
      cases rest <;> simp [List.isPrefixOf, Ne.symm notSecond]
    rw [List.cons_append, occurrences_cons, occurrences_cons, ih, here, Nat.add_assoc]

theorem occurrences_of_not_mem {cs : List Char} (absent : first ∉ cs ∨ second ∉ cs) :
    occurrences [first, second] cs = 0 := by
  rw [occurrences_eq_zero_iff, hasPart_eq_false_iff]
  intro inside
  rcases absent with absent | absent
  · exact absent (inside.subset (by simp))
  · exact absent (inside.subset (by simp))

end Pairs

/-- A text has no delimiter exactly when neither of them starts at any place. -/
theorem hasCommentDelimiter_eq_false_iff {text : String} :
    hasCommentDelimiter text = false ↔
      occurrences ['{', '-'] text.toList = 0 ∧ occurrences ['-', '}'] text.toList = 0 := by
  unfold hasCommentDelimiter
  rw [Bool.or_eq_false_iff, occurrences_eq_zero_iff, occurrences_eq_zero_iff]
  exact and_comm

/-! ### Comments -/

/-- **A comment with the end of its line**, whose delimiters stand at its ends and nowhere else. -/
structure IsComment (text : String) : Prop where
  opens : ['{', '-'] <+: text.toList
  closes : ['-', '}', '\n'] <:+ text.toList
  opensOnce : occurrences ['{', '-'] text.toList = 1
  closesOnce : occurrences ['-', '}'] text.toList = 1

/-- The digits of a number are in no delimiter. -/
theorem occurrences_toString (time : Int) :
    occurrences ['{', '-'] (toString time).toList = 0 ∧
      occurrences ['-', '}'] (toString time).toList = 0 := by
  have digits : ∀ n : Nat, '{' ∉ Nat.toDigits 10 n ∧ '}' ∉ Nat.toDigits 10 n := by
    intro n
    constructor
    all_goals
      intro member
      exact absurd (Nat.isDigit_of_mem_toDigits (by decide) (by decide) member) (by decide)
  have brackets : '{' ∉ (toString time).toList ∧ '}' ∉ (toString time).toList := by
    cases time with
    | ofNat n =>
      show '{' ∉ (toString n).toList ∧ '}' ∉ (toString n).toList
      simpa using digits n
    | negSucc n =>
      show '{' ∉ ("-" ++ toString (n + 1)).toList ∧ '}' ∉ ("-" ++ toString (n + 1)).toList
      simpa using digits (n + 1)
  exact ⟨occurrences_of_not_mem (.inl brackets.1), occurrences_of_not_mem (.inr brackets.2)⟩

namespace Schema

/-- A header with its texts set apart from what stands around them. -/
theorem toList_header (schema : Schema) (time : Int) :
    (schema.header time).toList =
      "\x7b-| Automatically generated ".toList ++ '\'' :: (schema.name.toList ++ '\'' ::
        ("\n\nSchema version".toList ++ ' ' :: (schema.version.toList ++ '\n' ::
          ("\nLast generated at Unix time".toList ++ ' ' :: ((toString time).toList ++ '\n' ::
            "\n-\x7d\n".toList))))) := by
  have opening : "\x7b-| Automatically generated '" = "\x7b-| Automatically generated " ++ "'" := rfl
  have middle : "'\n\nSchema version " = "'" ++ ("\n\nSchema version" ++ " ") := rfl
  have dating : "\n\nLast generated at Unix time " =
    "\n" ++ ("\nLast generated at Unix time" ++ " ") := rfl
  have closing : "\n\n-\x7d\n" = "\n" ++ "\n-\x7d\n" := rfl
  have single : "'".toList = ['\''] ∧ " ".toList = [' '] ∧ "\n".toList = ['\n'] := by decide
  unfold header
  simp only [opening, middle, dating, closing]
  simp only [String.toList_append, single, List.append_assoc, List.cons_append, List.nil_append]

/-- The places of delimiters in a header, given that the name has none: one at each end, and those
of the version. -/
theorem occurrences_header {schema : Schema} (clean : hasCommentDelimiter schema.name = false)
    (time : Int) :
    occurrences ['{', '-'] (schema.header time).toList =
        1 + occurrences ['{', '-'] schema.version.toList ∧
      occurrences ['-', '}'] (schema.header time).toList =
        1 + occurrences ['-', '}'] schema.version.toList := by
  obtain ⟨noOpening, noClosing⟩ := hasCommentDelimiter_eq_false_iff.mp clean
  obtain ⟨timeOpening, timeClosing⟩ := occurrences_toString time
  rw [toList_header]
  constructor
  · repeat rw [occurrences_separated (by decide) (by decide)]
    rw [noOpening, timeOpening]
    have fixed : occurrences ['{', '-'] "\x7b-| Automatically generated ".toList = 1 ∧
        occurrences ['{', '-'] "\n\nSchema version".toList = 0 ∧
        occurrences ['{', '-'] "\nLast generated at Unix time".toList = 0 ∧
        occurrences ['{', '-'] "\n-\x7d\n".toList = 0 := by decide
    omega
  · repeat rw [occurrences_separated (by decide) (by decide)]
    rw [noClosing, timeClosing]
    have fixed : occurrences ['-', '}'] "\x7b-| Automatically generated ".toList = 0 ∧
        occurrences ['-', '}'] "\n\nSchema version".toList = 0 ∧
        occurrences ['-', '}'] "\nLast generated at Unix time".toList = 0 ∧
        occurrences ['-', '}'] "\n-\x7d\n".toList = 1 := by decide
    omega

/-- **The comment at the head of a module** is closed at its end exactly when the version has no
delimiter. -/
theorem isComment_header_iff {schema : Schema} (clean : hasCommentDelimiter schema.name = false)
    (time : Int) :
    IsComment (schema.header time) ↔ hasCommentDelimiter schema.version = false := by
  obtain ⟨openings, closings⟩ := occurrences_header clean time
  rw [hasCommentDelimiter_eq_false_iff]
  constructor
  · rintro ⟨_, _, once, onceClosed⟩
    omega
  · rintro ⟨noOpening, noClosing⟩
    refine ⟨?_, ?_, by omega, by omega⟩
    · rw [toList_header]
      have start : ['{', '-'] <+: "\x7b-| Automatically generated ".toList := by decide
      exact start.trans (List.prefix_append _ _)
    · have ending : ['-', '}', '\n'] <:+ "\n\n-\x7d\n".toList := by decide
      exact ending.trans ⟨_, String.toList_append.symm⟩

end Schema

/-- **The comment of a record** is closed at its end when its description has no delimiter. -/
theorem Record.isComment_docComment {record : Record} (described : record.description.isEmpty = false)
    (clean : hasCommentDelimiter record.description = false) : IsComment record.docComment := by
  obtain ⟨noOpening, noClosing⟩ := hasCommentDelimiter_eq_false_iff.mp clean
  have text : record.docComment = "\x7b-| " ++ record.description ++ "\n-\x7d\n" := by
    simp [docComment, described]
  have chars : record.docComment.toList =
      "\x7b-|".toList ++ ' ' :: (record.description.toList ++ '\n' :: "-\x7d\n".toList) := by
    simp [text]
  refine ⟨?_, ?_, ?_, ?_⟩
  · rw [chars]
    exact List.prefix_append ['{', '-'] _
  · rw [text, String.toList_append]
    have ending : ['-', '}', '\n'] <:+ "\n-\x7d\n".toList := by decide
    exact ending.trans (List.suffix_append _ _)
  · rw [chars, occurrences_separated (by decide) (by decide),
      occurrences_separated (by decide) (by decide), noOpening]
    decide
  · rw [chars, occurrences_separated (by decide) (by decide),
      occurrences_separated (by decide) (by decide), noClosing]
    decide

namespace Schema

/-! ### Schemas that were built or read -/

/-- A schema that was built from declarations or read from a document. -/
def Loaded (schema : Schema) : Prop :=
  (∃ name version declarations, build name version declarations = .ok schema) ∨
    ∃ source, ofYaml source = .ok schema

/-- **A schema that is read is built** from the declarations of its document. -/
theorem Loaded.exists_build {schema : Schema} (loaded : schema.Loaded) :
    ∃ name version declarations, build name version declarations = .ok schema := by
  rcases loaded with built | ⟨source, read⟩
  · exact built
  · obtain ⟨draft, version, declarations, _, _, _, built⟩ := ofYaml_eq_ok read
    exact ⟨draft.name, version, declarations, built⟩

/-- **Every comment of a module is closed at its end**, whatever the name and the descriptions are,
exactly when the version has no delimiter. -/
theorem comments_closed_iff {schema : Schema} (loaded : schema.Loaded) :
    (∀ time, IsComment (schema.header time) ↔ hasCommentDelimiter schema.version = false) ∧
      ∀ key decl record, schema.records.get? key = some decl →
        Record.resolve schema key decl = .ok record →
        (record.docComment = "" ↔ Text.trim decl.description = "") ∧
          (record.docComment ≠ "" → IsComment record.docComment) := by
  obtain ⟨name, version, declarations, built⟩ := loaded.exists_build
  obtain ⟨rules, same⟩ := build_eq_ok_iff.mp built
  refine ⟨fun time => isComment_header_iff (by rw [same]; exact rules.nameClean) time, ?_⟩
  intro key decl record found resolved
  have clean : hasCommentDelimiter record.description = false := by
    rw [Record.description_eq resolved]
    exact hasCommentDelimiter_trim (description_clean built found)
  rw [← Record.description_eq resolved]
  by_cases described : record.description.isEmpty
  · have absent : record.docComment = "" := by simp [Record.docComment, described]
    simp [absent, String.isEmpty_iff.mp described]
  · have comment := Record.isComment_docComment (by simpa using described) clean
    have present : record.docComment ≠ "" := by
      intro absent
      simpa [absent] using comment.opens
    simp only [present, false_iff, ne_eq, not_false_eq_true, true_implies, String.isEmpty_iff] at *
    exact ⟨described, comment⟩

/-- The declaration of a record without fields and with a description. -/
def described (description : String) : OrderedMap String RecordDecl :=
  .ofList [("Note", { description, fields := .empty, breaksRecursion := false })]

/-- Brackets and hyphens that make no delimiter stay inside the comments. -/
theorem note_comments_closed :
    ∃ schema record, build "notes \x7ball\x7d" "1-rc" (described "A \x7bshort\x7d note -") = .ok schema ∧
      IsComment (schema.header (-1)) ∧
      (schema.records.get? "Note").map (Record.resolve schema "Note") = some (.ok record) ∧
      record.description = "A \x7bshort\x7d note -" ∧ IsComment record.docComment := by
  let schema : Schema := ⟨"notes \x7ball\x7d", "1-rc", described "A \x7bshort\x7d note -"⟩
  let record : Record := ⟨"Note", "Note", "A \x7bshort\x7d note -", false, []⟩
  have built : build "notes \x7ball\x7d" "1-rc" (described "A \x7bshort\x7d note -") = .ok schema := rfl
  obtain ⟨decl, found, resolved⟩ : ∃ decl, schema.records.get? "Note" = some decl ∧
    Record.resolve schema "Note" decl = .ok record := ⟨_, rfl, rfl⟩
  obtain ⟨headers, descriptions⟩ := comments_closed_iff (.inl ⟨_, _, _, built⟩)
  have clean : hasCommentDelimiter "1-rc" = false := by decide
  refine ⟨schema, record, built, (headers (-1)).mpr clean, ?_, rfl, ?_⟩
  · rw [found, Option.map_some, resolved]
  · exact (descriptions "Note" decl record found resolved).2 (by decide)

/-- A version with a delimiter closes the comment at the head of its module too early. -/
theorem version_closes_comment :
    ∃ schema, build "notes" "1-\x7d" (described "") = .ok schema ∧ schema.Loaded ∧
      ¬IsComment (schema.header 0) := by
  have built : build "notes" "1-\x7d" (described "") = .ok ⟨"notes", "1-\x7d", described ""⟩ := rfl
  refine ⟨_, built, .inl ⟨_, _, _, built⟩, ?_⟩
  rw [isComment_header_iff (by decide)]
  decide

end Schema

end ElmCodec
