/-
**Where a text is cut into words.**

A text is gone through character by character, with the words that are complete, the word that is
being read, and whether a capital letter would end it. Each character goes into one word, and a word
ends at a separator or between a small letter or digit and a capital letter, nowhere else.

* `Cuts` — what one step, and by that a whole run, does to the words of a text.
* `WordBoundary` — **a word boundary between two parts of a text.**
* `wordBoundary_separator`, `wordBoundary_capital` — where there is one.
* `not_wordBoundary` — no word ends anywhere else.
* `splitWords_exact` — all of it.
-/

import ElmCodec.Proofs.Elm.Words

namespace ElmCodec

theorem Text.lower_ne_nil (c : Char) : lower c ≠ [] := by
  unfold lower
  split
  · exact List.cons_ne_nil _ _
  · split
    · exact List.cons_ne_nil _ _
    · exact List.cons_ne_nil _ _

namespace Elm

open ElmCodec.Text

/-- The characters of a text that belong to words, in lower case. -/
def wordLetters (cs : List Char) : List Char := lowerAll (cs.filter (· ∉ ['_', '.', '-', ' ']))

/-- **A word boundary between two parts of a text**: some of its words hold the first part, and the
others the second one. -/
def WordBoundary (before after : List Char) : Prop :=
  ∃ left right, splitWords (String.ofList (before ++ after)) = left ++ right ∧
    (String.join left).toList = wordLetters before ∧
      (String.join right).toList = wordLetters after

/-! ### The letters of words -/

section Letters

variable {c : Char}

theorem wordLetters_eq (cs : List Char) :
    wordLetters cs = lowerAll (cs.filter (!isSeparator ·)) := by
  have same : ∀ c, decide (c ∉ ['_', '.', '-', ' ']) = !isSeparator c := by
    intro c
    rw [decide_not, Bool.eq_iff_iff.mpr (isSeparator_iff.trans decide_eq_true_iff.symm)]
  rw [wordLetters]
  simp only [same]

theorem wordLetters_append (first second : List Char) :
    wordLetters (first ++ second) = wordLetters first ++ wordLetters second := by
  simp [wordLetters, lowerAll]

theorem wordLetters_separator (separates : isSeparator c = true) : wordLetters [c] = [] := by
  simp [wordLetters_eq, separates, lowerAll]

theorem wordLetters_letter (letter : isSeparator c = false) : wordLetters [c] = lower c := by
  simp [wordLetters_eq, letter, lowerAll]

theorem flatten_wordsOf_eq (cs : List Char) : (wordsOf cs).flatten = wordLetters cs := by
  rw [flatten_wordsOf, wordLetters_eq]

end Letters

/-! ### Going through a text -/

/-- **What going through a part of a text does**: from a word that is being read it leads to some
words that are complete and to another one that is being read, and loses no letter. -/
structure Cuts (word : List Char) (mayEnd : Bool) (read : List Char) (complete : List (List Char))
    (next : List Char) (mayEnd' : Bool) : Prop where
  words : ∀ rest, wordsAfter word mayEnd (read ++ rest) = complete ++ wordsAfter next mayEnd' rest
  letters : complete.flatten ++ next = word ++ wordLetters read

namespace Cuts

variable {word next last : List Char} {mayEnd mayEnd' mayEnd'' : Bool} {read more : List Char}
  {complete later : List (List Char)} {c : Char}

theorem refl (word : List Char) (mayEnd : Bool) : Cuts word mayEnd [] [] word mayEnd :=
  ⟨fun _ => rfl, (List.append_nil word).symm⟩

theorem trans (first : Cuts word mayEnd read complete next mayEnd')
    (second : Cuts next mayEnd' more later last mayEnd'') :
    Cuts word mayEnd (read ++ more) (complete ++ later) last mayEnd'' where
  words rest := by rw [List.append_assoc, first.words, second.words, List.append_assoc]
  letters := by
    rw [List.flatten_append, List.append_assoc, second.letters, ← List.append_assoc, first.letters,
      List.append_assoc, wordLetters_append]

/-- A separator completes the word. -/
theorem separator (separates : isSeparator c = true) (word : List Char) (mayEnd : Bool) :
    Cuts word mayEnd [c] (closeWord word) [] false where
  words rest := by rw [List.singleton_append, wordsAfter, if_pos separates]
  letters := by
    rw [flatten_closeWord, wordLetters_separator separates]

/-- A capital letter completes the word, if it may end. -/
theorem capital (letter : isSeparator c = false) (starts : isUpper c = true) (word : List Char) :
    Cuts word true [c] (closeWord word) (lower c) (endsWord c) where
  words rest := by
    rw [List.singleton_append, wordsAfter, letter, if_neg Bool.false_ne_true, starts, Bool.and_true,
      if_pos rfl]
  letters := by rw [flatten_closeWord, wordLetters_letter letter]

/-- Any other character goes on with the word. -/
theorem inside (letter : isSeparator c = false) (goesOn : (isUpper c && mayEnd) = false)
    (word : List Char) : Cuts word mayEnd [c] [] (word ++ lower c) (endsWord c) where
  words rest := by
    rw [List.singleton_append, wordsAfter, letter, if_neg Bool.false_ne_true, goesOn,
      if_neg Bool.false_ne_true, List.nil_append]
  letters := by rw [List.flatten_nil, List.nil_append, wordLetters_letter letter]

/-- **One step**: after a character of words, the word that is being read is not empty. -/
theorem exists_step (letter : isSeparator c = false) (word : List Char) (mayEnd : Bool) :
    ∃ complete next, Cuts word mayEnd [c] complete next (endsWord c) ∧ next ≠ [] := by
  cases starts : isUpper c && mayEnd with
  | true =>
    obtain ⟨upper, rfl⟩ := (Bool.and_eq_true _ _).mp starts
    exact ⟨_, _, capital letter upper word, lower_ne_nil c⟩
  | false =>
    exact ⟨_, _, inside letter starts word, fun empty =>
      lower_ne_nil c (List.append_eq_nil_iff.mp empty).2⟩

/-- **A whole run** is made of such steps. -/
theorem exists_run (word : List Char) (mayEnd : Bool) (read : List Char) :
    ∃ complete next mayEnd', Cuts word mayEnd read complete next mayEnd' := by
  induction read generalizing word mayEnd with
  | nil => exact ⟨_, _, _, refl word mayEnd⟩
  | cons c read ih =>
    cases letter : isSeparator c with
    | true =>
      obtain ⟨_, _, _, run⟩ := ih [] false
      exact ⟨_, _, _, (separator letter word mayEnd).trans run⟩
    | false =>
      obtain ⟨_, next, step, _⟩ := exists_step letter word mayEnd
      obtain ⟨_, _, _, run⟩ := ih next (endsWord c)
      exact ⟨_, _, _, step.trans run⟩

/-- After a part that ends in a character of words, that character decides whether the word that is
being read may end. -/
theorem exists_run_concat (letter : isSeparator c = false) (read : List Char) :
    ∃ complete next, Cuts [] false (read ++ [c]) complete next (endsWord c) ∧ next ≠ [] := by
  obtain ⟨_, next, mayEnd, run⟩ := exists_run [] false read
  obtain ⟨_, _, step, inhabited⟩ := exists_step letter next mayEnd
  exact ⟨_, _, run.trans step, inhabited⟩

end Cuts

/-- A word that is being read is the beginning of the next word. -/
theorem exists_wordsAfter {word : List Char} (inhabited : word ≠ []) (mayEnd : Bool)
    (cs : List Char) :
    ∃ more later, wordsAfter word mayEnd cs = (word ++ more) :: later := by
  induction cs generalizing word mayEnd with
  | nil => exact ⟨[], [], by rw [wordsAfter, closeWord_of_ne_nil inhabited, List.append_nil]⟩
  | cons c cs ih =>
    unfold wordsAfter
    split
    · exact ⟨[], _, by rw [closeWord_of_ne_nil inhabited, List.append_nil]; rfl⟩
    · split
      · exact ⟨[], _, by rw [closeWord_of_ne_nil inhabited, List.append_nil]; rfl⟩
      · have longer : word ++ lower c ≠ [] := List.append_ne_nil_of_left_ne_nil inhabited _
        obtain ⟨more, later, same⟩ := ih longer (endsWord c)
        exact ⟨lower c ++ more, later, by rw [same, List.append_assoc]⟩

/-! ### Boundaries -/

section Boundaries

variable {before after : List Char} {first second separator : Char}

theorem toList_join (words : List (List Char)) :
    (String.join (words.map String.ofList)).toList = words.flatten := by
  induction words with
  | nil => rfl
  | cons word words ih =>
    rw [List.map_cons, String.join_cons, String.toList_append, String.toList_ofList, ih,
      List.flatten_cons]

/-- For a boundary it is enough that some of the first words hold the first part. -/
theorem wordBoundary_iff : WordBoundary before after ↔
    ∃ left right, wordsOf (before ++ after) = left ++ right ∧
      left.flatten = wordLetters before := by
  constructor
  · rintro ⟨left, right, cut, held, _⟩
    rw [splitWords, String.toList_ofList] at cut
    obtain ⟨left, right, whole, rfl, rfl⟩ := List.map_eq_append_iff.mp cut
    exact ⟨left, right, whole, by rw [← held, toList_join]⟩
  · rintro ⟨left, right, cut, held⟩
    have rest : right.flatten = wordLetters after := by
      have whole := flatten_wordsOf_eq (before ++ after)
      rw [cut, List.flatten_append, wordLetters_append, held] at whole
      exact List.append_cancel_left whole
    exact ⟨left.map String.ofList, right.map String.ofList,
      by rw [splitWords, String.toList_ofList, cut, List.map_append],
      by rw [toList_join, held], by rw [toList_join, rest]⟩

/-- The words of a part that is complete end before what follows it. -/
theorem wordBoundary_of_closed {complete : List (List Char)} {next : List Char} {mayEnd : Bool}
    {right : List (List Char)} (run : Cuts [] false before complete next mayEnd)
    (closed : wordsAfter next mayEnd after = closeWord next ++ right) :
    WordBoundary before after := by
  refine wordBoundary_iff.mpr ⟨complete ++ closeWord next, right, ?_, ?_⟩
  · rw [wordsOf, run.words, closed, List.append_assoc]
  · rw [List.flatten_append, flatten_closeWord, run.letters, List.nil_append]

/-- **There is a boundary at every separator.** -/
theorem wordBoundary_separator (separates : isSeparator separator = true) :
    WordBoundary before (separator :: after) := by
  obtain ⟨complete, next, mayEnd, run⟩ := Cuts.exists_run [] false before
  exact wordBoundary_of_closed run ((Cuts.separator separates next mayEnd).words after)

/-- **There is a boundary before a capital letter** that follows the end of a word. -/
theorem wordBoundary_capital (letter : isSeparator first = false)
    (letter' : isSeparator second = false) (ends : endsWord first = true)
    (starts : isUpper second = true) : WordBoundary (before ++ [first]) (second :: after) := by
  obtain ⟨complete, next, run, _⟩ := Cuts.exists_run_concat letter before
  rw [ends] at run
  exact wordBoundary_of_closed run ((Cuts.capital letter' starts next).words after)

/-- Words do not end inside a word. -/
theorem flatten_ne_of_inside {left right outer later : List (List Char)} {head tail : List Char}
    (inhabited : head ≠ []) (inhabited' : tail ≠ [])
    (same : left ++ right = outer ++ (head ++ tail) :: later) :
    left.flatten ≠ outer.flatten ++ head := by
  intro held
  rcases List.append_eq_append_iff.mp same with ⟨between, rfl, _⟩ | ⟨between, rfl, split⟩
  · rw [List.flatten_append, List.append_assoc, List.self_eq_append_right] at held
    exact inhabited (List.append_eq_nil_iff.mp held).2
  · rw [List.flatten_append, List.append_cancel_left_eq] at held
    cases between with
    | nil => exact inhabited held.symm
    | cons word between =>
      obtain ⟨rfl, _⟩ := List.cons.inj split
      rw [List.flatten_cons, List.append_assoc, List.append_right_eq_self] at held
      exact inhabited' (List.append_eq_nil_iff.mp held).1

/-- **There is no other boundary** between two characters of words that follow each other. -/
theorem not_wordBoundary (letter : isSeparator first = false)
    (letter' : isSeparator second = false) (goesOn : (isUpper second && endsWord first) = false) :
    ¬WordBoundary (before ++ [first]) (second :: after) := by
  rw [wordBoundary_iff]
  rintro ⟨left, right, cut, held⟩
  obtain ⟨complete, next, run, inhabited⟩ := Cuts.exists_run_concat letter before
  have longer : next ++ lower second ≠ [] := List.append_ne_nil_of_left_ne_nil inhabited _
  obtain ⟨more, later, read⟩ := exists_wordsAfter longer (endsWord second) after
  have whole : left ++ right = complete ++ (next ++ (lower second ++ more)) :: later := by
    have step := (Cuts.inside letter' goesOn next).words after
    rw [← cut, wordsOf, run.words, ← List.singleton_append, step, read, List.nil_append,
      List.append_assoc]
  have inside : lower second ++ more ≠ [] :=
    List.append_ne_nil_of_left_ne_nil (lower_ne_nil second) _
  exact flatten_ne_of_inside inhabited inside whole (by rw [held, run.letters, List.nil_append])

end Boundaries

/-- **Words lose nothing and end only where they should.** No word of a text is empty, and the words
one behind the other are the lower cases of its characters without the separators. Between two
characters that are no separators and follow each other, a word ends exactly when the first one is
small or a digit and the second one is a capital; at a separator words always end, so that what
stands before and behind it is in different words. -/
theorem splitWords_exact (text : String) :
    (∀ word ∈ splitWords text, word ≠ "") ∧
    (String.join (splitWords text)).toList =
      (text.toList.filter (· ∉ ['_', '.', '-', ' '])).flatMap lower ∧
    (∀ (before after : List Char) (first second : Char),
      text.toList = before ++ first :: second :: after →
      first ∉ ['_', '.', '-', ' '] → second ∉ ['_', '.', '-', ' '] →
      (WordBoundary (before ++ [first]) (second :: after) ↔
        (isLower first = true ∨ first.isDigit = true) ∧ isUpper second = true)) ∧
    ∀ (before between after : List Char) (first second separator : Char),
      text.toList = before ++ first :: between ++ second :: after →
      first ∉ ['_', '.', '-', ' '] → second ∉ ['_', '.', '-', ' '] →
      separator ∈ between → separator ∈ ['_', '.', '-', ' '] →
      ∃ inner outer, between = inner ++ outer ∧
        WordBoundary (before ++ first :: inner) (outer ++ second :: after) := by
  have none {c : Char} (other : c ∉ ['_', '.', '-', ' ']) : isSeparator c = false :=
    eq_false_of_ne_true fun separates => other (isSeparator_iff.mp separates)
  refine ⟨?_, ?_, ?_, ?_⟩
  · intro word member empty
    obtain ⟨letters, inside, rfl⟩ := List.mem_map.mp member
    rw [String.ofList_eq_empty_iff.mp empty] at inside
    exact nil_not_mem_wordsOf text.toList inside
  · rw [splitWords, toList_join, flatten_wordsOf_eq]
    rfl
  · intro before after first second _ letter letter'
    have rule : (isUpper second && endsWord first) = true ↔
        (isLower first = true ∨ first.isDigit = true) ∧ isUpper second = true := by
      rw [Bool.and_eq_true, endsWord, Bool.or_eq_true, and_comm]
    rw [← rule]
    constructor
    · intro boundary
      by_contra goesOn
      exact not_wordBoundary (none letter) (none letter') (eq_false_of_ne_true goesOn) boundary
    · intro cut
      obtain ⟨starts, ends⟩ := (Bool.and_eq_true _ _).mp cut
      exact wordBoundary_capital (none letter) (none letter') ends starts
  · intro before between after first second separator _ _ _ member separates
    obtain ⟨inner, outer, rfl⟩ := List.append_of_mem member
    exact ⟨inner, separator :: outer, rfl, wordBoundary_separator (isSeparator_iff.mpr separates)⟩

/-- A key with a dotted capital I, a digit, an `ß` and a point: its words, a boundary before the
capital, none behind it, and one at the point. -/
theorem key_splitWords :
    splitWords "İd2Roß.aB" = ["i\u0307d2", "roß", "a", "b"] ∧
      WordBoundary ['İ', 'd', '2'] ['R', 'o', 'ß', '.', 'a', 'B'] ∧
      ¬WordBoundary ['İ', 'd', '2', 'R'] ['o', 'ß', '.', 'a', 'B'] ∧
      ∃ inner outer, ['.'] = inner ++ outer ∧
        WordBoundary (['İ', 'd', '2', 'R', 'o'] ++ 'ß' :: inner) (outer ++ 'a' :: ['B']) := by
  have letters : "İd2Roß.aB".toList = ['İ', 'd', '2', 'R', 'o', 'ß', '.', 'a', 'B'] := by decide
  obtain ⟨_, _, cuts, apart⟩ := splitWords_exact "İd2Roß.aB"
  refine ⟨by decide, ?_, ?_, ?_⟩
  · exact (cuts ['İ', 'd'] _ '2' 'R' letters (by decide) (by decide)).mpr (by decide)
  · intro boundary
    have both := (cuts ['İ', 'd', '2'] _ 'R' 'o' letters (by decide) (by decide)).mp boundary
    exact absurd both.1 (by decide)
  · exact apart ['İ', 'd', '2', 'R', 'o'] ['.'] ['B'] 'ß' 'a' '.' letters (by decide) (by decide)
      List.mem_cons_self (by decide)

end Elm

end ElmCodec
