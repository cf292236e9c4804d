/-
**String literals and the texts that they stand for.**

A reader behind the opening quote of a literal takes every character as it is, but for a backslash
and the one character after it; it stops at the first quote that no backslash precedes. The literal
of a text is made so that the reader finds the text again, and no other literal is read as that
text.

* `quoted_eq_some_iff` — what stands between two quotes, in both directions.
* `readString_eq_some_iff` — **a literal is read** exactly when it is the one that is written.
* `not_tripleQuote_stringLiteral` — no literal opens one that goes over several lines.
* `stringLiteral_exact` — all of it.
-/

import ElmCodec.Proofs.Reading.Lines

namespace ElmCodec.Reading

/-- What follows a given beginning is the rest of the text, and nothing else. -/
theorem after_eq_some_iff {start text rest : String} :
    after start text = some rest ↔ text = start ++ rest := by
  constructor
  · intro found
    obtain ⟨letters, cut, rfl⟩ := Option.map_eq_some_iff.mp found
    obtain ⟨front, whole, same⟩ := List.dropPrefix?_eq_some_iff.mp cut
    rw [← String.toList_inj, whole, eq_of_beq same, String.toList_append, String.toList_ofList]
  · rintro rfl
    exact after_append start rest

/-! ### Between two quotes -/

section Quoted

variable {c plain : Char} {cs rest source : List Char}

/-- What a backslash and a character stand for is written with that character again. -/
theorem escapeChar_of_unescape (known : unescape c = some plain) :
    Elm.escapeChar plain = ['\\', c] := by
  unfold unescape at known
  split at known
  · next quote =>
    cases known
    rw [quote]
    rfl
  · split at known
    · next backslash =>
      cases known
      rw [backslash]
      rfl
    · split at known
      · next lineEnd =>
        cases known
        rw [lineEnd]
        rfl
      · cases known

theorem escapeChar_of_ne (notQuote : c ≠ '"') (notBackslash : c ≠ '\\') (notEnd : c ≠ '\n') :
    Elm.escapeChar c = [c] := by
  rw [Elm.escapeChar, if_neg notQuote, if_neg notBackslash, if_neg notEnd]

/-- What the reader has taken is what is written for its answer, up to the closing quote. The
backslash that it may stand behind belongs to what is written. -/
theorem eq_escapeChars_of_quoted {escaped : Bool} (read : quoted escaped source = some (cs, rest)) :
    (if escaped then ['\\'] else []) ++ source = Elm.escapeChars cs ++ '"' :: rest := by
  fun_induction quoted escaped source generalizing cs with
  | case1 => cases read
  | case2 c source ih =>
    obtain ⟨plain, known, behind⟩ := Option.bind_eq_some_iff.mp read
    obtain ⟨⟨more, tail⟩, inner, same⟩ := Option.map_eq_some_iff.mp behind
    obtain ⟨rfl, rfl⟩ := Prod.mk.inj same
    have written : source = Elm.escapeChars more ++ '"' :: tail := ih inner
    rw [if_pos rfl, Elm.escapeChars, List.flatMap_cons, escapeChar_of_unescape known, written]
    rfl
  | case3 escaped source bare =>
    cases read
    rw [if_neg bare]
    rfl
  | case4 escaped source bare _ ih =>
    rw [if_neg bare]
    exact ih read
  | case5 => cases read
  | case6 escaped c source bare notQuote notBackslash notEnd ih =>
    obtain ⟨⟨more, tail⟩, inner, same⟩ := Option.map_eq_some_iff.mp read
    obtain ⟨rfl, rfl⟩ := Prod.mk.inj same
    have written : source = Elm.escapeChars more ++ '"' :: tail := ih inner
    rw [if_neg bare, Elm.escapeChars, List.flatMap_cons,
      escapeChar_of_ne notQuote notBackslash notEnd, written]
    rfl

/-- **What stands between two quotes** is read as a text exactly when it is what is written for that
text. -/
theorem quoted_eq_some_iff :
    quoted false source = some (cs, rest) ↔ source = Elm.escapeChars cs ++ '"' :: rest := by
  constructor
  · exact eq_escapeChars_of_quoted
  · rintro rfl
    exact quoted_escapeChars cs rest

end Quoted

/-! ### Whole literals -/

section Literal

variable (text : String)

theorem toList_stringLiteral :
    (Elm.stringLiteral text).toList = '"' :: (Elm.escapeChars text.toList ++ ['"']) := by
  rw [Elm.stringLiteral, String.toList_ofList (l := '"' :: _ ++ _)]
  rfl

/-- **A literal is read** as a text exactly when it is the literal of that text, and the reader
stops right behind its last character. -/
theorem readString_eq_some_iff {source text rest : String} :
    readString source = some (text, rest) ↔ source = Elm.stringLiteral text ++ rest := by
  constructor
  · intro read
    obtain ⟨inside, opened, behind⟩ := Option.bind_eq_some_iff.mp read
    obtain ⟨⟨letters, tail⟩, taken, same⟩ := Option.map_eq_some_iff.mp behind
    obtain ⟨rfl, rfl⟩ := Prod.mk.inj same
    rw [after_eq_some_iff.mp opened, ← String.toList_inj, String.toList_append,
      String.toList_append, toList_stringLiteral, quoted_eq_some_iff.mp taken,
      String.toList_ofList, String.toList_ofList]
    simp
  · rintro rfl
    exact readString_append text rest

/-- A literal does not open one that goes over several lines: a quote inside has its backslash. -/
theorem not_tripleQuote_stringLiteral : ¬['"', '"', '"'] <+: (Elm.stringLiteral text).toList := by
  rw [toList_stringLiteral]
  cases text.toList with
  | nil => decide
  | cons c cs =>
    have start : ∃ first more, Elm.escapeChar c = first :: more ∧ first ≠ '"' := by
      by_cases isQuote : c = '"'
      · exact ⟨'\\', ['"'], by rw [isQuote]; rfl, by decide⟩
      · unfold Elm.escapeChar
        rw [if_neg isQuote]
        split
        · exact ⟨_, _, rfl, by decide⟩
        · split
          · exact ⟨_, _, rfl, by decide⟩
          · exact ⟨_, _, rfl, isQuote⟩
    obtain ⟨first, more, written, other⟩ := start
    rw [Elm.escapeChars, List.flatMap_cons, written, List.cons_append, List.cons_append,
      List.cons_prefix_cons, List.cons_prefix_cons]
    rintro ⟨_, same, _⟩
    exact other same.symm

theorem stringLiteral_inj {text other : String} :
    Elm.stringLiteral text = Elm.stringLiteral other ↔ text = other := by
  constructor
  · intro same
    have read := readString_append other ""
    rw [← same, readString_append] at read
    exact (Prod.mk.inj (Option.some.inj read)).1
  · exact congrArg Elm.stringLiteral

/-- **String literals read back.** The literal of a text is complete on one line: it holds no line
end and opens no literal of several lines, and the reader behind its opening quote stops at its last
character and has read the text. Wherever the reader finds a text, the literal of that text stands
there, whatever follows it; so different texts have different literals. -/
theorem stringLiteral_exact :
    (∀ text : String, OneLine (Elm.stringLiteral text) ∧
      ¬['"', '"', '"'] <+: (Elm.stringLiteral text).toList ∧
        ∃ inside, (Elm.stringLiteral text).toList = '"' :: inside ∧
          quoted false inside = some (text.toList, [])) ∧
    (∀ source text rest : String,
      readString source = some (text, rest) ↔ source = Elm.stringLiteral text ++ rest) ∧
    ∀ text other : String, Elm.stringLiteral text = Elm.stringLiteral other ↔ text = other := by
  refine ⟨fun text => ?_, fun source text rest => readString_eq_some_iff,
    fun text other => stringLiteral_inj⟩
  exact ⟨oneLine_stringLiteral text, not_tripleQuote_stringLiteral text, _,
    toList_stringLiteral text, quoted_eq_some_iff.mpr rfl⟩

/-- A key of quotes, backslashes and a line end is read back from its literal. -/
example : readString (Elm.stringLiteral "\"\\\n\\\"" ++ " x") = some ("\"\\\n\\\"", " x") := by
  decide +kernel

end Literal

end ElmCodec.Reading
