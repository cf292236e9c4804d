/-
**Which names stay as they are when they are made again.**

A name made of words is a text without separators. Made again, it keeps every capital letter that
follows a small letter or a digit and loses the other ones; so it stays as it is when no two capital
letters stand side by side. In a name the capital letters are the first letters of words, and two of
them stand side by side where a word of one letter comes before another word that starts with a
letter.

* `recase` — **a text without separators, made again**, after its first character.
* `joinCamel_eq_self_iff` — such a text stays as it is when it has no two capitals side by side.
* `isChain_joinCamel_iff` — **a name made of words** without two capitals side by side.
* `camelCase_stable_iff` — the keys whose names stay as they are.
-/

import Mathlib.Data.List.Chain
import ElmCodec.Proofs.Elm.Words

namespace ElmCodec.Elm

open ElmCodec.Text

/-! ### Letters and digits -/

/-- Two characters that are not both capital letters. -/
def Uneven (first second : Char) : Prop := ¬(first.isUpper = true ∧ second.isUpper = true)

section Characters

variable {c : Char}

theorem isAlpha_iff : c.isAlpha = true ↔ c.isUpper = true ∨ c.isLower = true := by
  unfold Char.isAlpha
  rw [Bool.or_eq_true]

theorem isAlphanum_iff : c.isAlphanum = true ↔ c.isAlpha = true ∨ c.isDigit = true := by
  unfold Char.isAlphanum
  rw [Bool.or_eq_true]

theorem isAlphanum_of_isUpper (capital : c.isUpper = true) : c.isAlphanum = true :=
  isAlphanum_iff.mpr (.inl (isAlpha_iff.mpr (.inl capital)))

theorem isAlphanum_of_small (small : c.isLower = true ∨ c.isDigit = true) :
    c.isAlphanum = true :=
  isAlphanum_iff.mpr (small.imp_left fun lower => isAlpha_iff.mpr (.inr lower))

theorem not_isUpper_of_small (small : c.isLower = true ∨ c.isDigit = true) : c.isUpper = false := by
  refine eq_false_of_ne_true fun capital => ?_
  rw [isLower_iff, Char.isDigit_iff_toNat] at small
  rw [isUpper_iff] at capital
  have nine : '9'.toNat = 57 := rfl
  omega

theorem ascii_of_isAlphanum (plain : c.isAlphanum = true) : c.toNat < 128 := by
  rw [isAlphanum_iff, isAlpha_iff, isUpper_iff, isLower_iff, Char.isDigit_iff_toNat] at plain
  have nine : '9'.toNat = 57 := rfl
  omega

/-- A letter or a digit is no separator. -/
theorem not_isSeparator_of_isAlphanum (plain : c.isAlphanum = true) : isSeparator c = false := by
  refine eq_false_of_ne_true fun separates => ?_
  have none : (['_', '.', '-', ' '].all (!·.isAlphanum)) = true := by decide
  have other := List.all_eq_true.mp none c (isSeparator_iff.mp separates)
  simp [plain] at other

/-- A letter or a digit ends a word unless it is a capital. -/
theorem endsWord_of_isAlphanum (plain : c.isAlphanum = true) : endsWord c = !c.isUpper := by
  rw [endsWord, isLower_of_ascii (ascii_of_isAlphanum plain)]
  cases capital : c.isUpper with
  | false =>
    rw [isAlphanum_iff, isAlpha_iff, capital] at plain
    simpa using plain
  | true =>
    refine eq_false_of_ne_true fun ends => ?_
    rw [not_isUpper_of_small (Bool.or_eq_true _ _ ▸ ends)] at capital
    cases capital

theorem lower_of_isAlphanum (plain : c.isAlphanum = true) : lower c = [c.toLower] :=
  lower_of_ascii (ascii_of_isAlphanum plain)

theorem isLower_iff_val : c.isLower = true ↔ 'a'.val ≤ c.val ∧ c.val ≤ 'z'.val := by
  unfold Char.isLower
  rw [Bool.and_eq_true, decide_eq_true_iff, decide_eq_true_iff]

theorem toNat_toUpper (small : c.isLower = true) : c.toUpper.toNat = c.toNat - 32 := by
  have bounds := isLower_iff.mp small
  have shift : ('A'.val - 'a'.val).toNat = 4294967264 := by decide
  have code : c.val.toNat = c.toNat := rfl
  unfold Char.toUpper
  rw [dif_pos (isLower_iff_val.mp small), ← Char.toNat_val, UInt32.toNat_add, shift, code]
  omega

theorem toUpper_of_not_isLower (other : c.isLower = false) : c.toUpper = c :=
  dif_neg fun small => by simp [isLower_iff_val.mpr small] at other

/-- The capital of a letter is a capital letter. -/
theorem isUpper_toUpper_eq (c : Char) : c.toUpper.isUpper = c.isAlpha := by
  unfold Char.isAlpha
  cases small : c.isLower with
  | true =>
    have bounds := isLower_iff.mp small
    rw [Bool.or_true, isUpper_iff, toNat_toUpper small]
    omega
  | false => rw [toUpper_of_not_isLower small, Bool.or_false]

theorem isAlphanum_toUpper (plain : c.isAlphanum = true) : c.toUpper.isAlphanum = true := by
  cases small : c.isLower with
  | true =>
    refine isAlphanum_of_isUpper ?_
    rw [isUpper_toUpper_eq, isAlpha_iff]
    exact .inr small
  | false => rw [toUpper_of_not_isLower small, plain]

/-- A capital letter is its own, made small and capital again. -/
theorem capitalizeChars_lower (capital : c.isUpper = true) : capitalizeChars (lower c) = [c] := by
  have small := isLower_toLower capital
  have ascii : c.toLower.toNat < 128 := ascii_of_isAlphanum (isAlphanum_of_small (.inl small))
  have again : c.toLower.toUpper = c := by
    rw [← Char.toNat_inj, toNat_toUpper small, toNat_toLower capital, Nat.add_sub_cancel]
  rw [lower_of_isAlphanum (isAlphanum_of_isUpper capital), capitalizeChars, List.append_nil,
    upper_of_ascii ascii, again]

theorem toLower_ne (capital : c.isUpper = true) : c.toLower ≠ c := by
  intro same
  have moved := toNat_toLower capital
  rw [same] at moved
  omega

theorem isLower_or_isDigit_toLower (plain : c.isAlphanum = true) :
    c.toLower.isLower = true ∨ c.toLower.isDigit = true := by
  rcases isAlphanum_iff.mp plain with letter | digit
  · rw [isLower_toLower_eq]
    exact .inl letter
  · rw [toLower_of_not_isUpper (not_isUpper_of_small (.inr digit))]
    exact .inr digit

end Characters

/-! ### A text without separators -/

/-- What follows the first character of a text without separators when its words are joined: capital
letters that start a word stay, all others become small. -/
def recase (mayEnd : Bool) : List Char → List Char
  | [] => []
  | c :: rest =>
    (if isUpper c && mayEnd then capitalizeChars (lower c) else lower c) ++ recase (endsWord c) rest

section Recase

variable {c previous : Char} {word cs : List Char}

theorem capitalizeChars_append (inhabited : word ≠ []) (more : List Char) :
    capitalizeChars (word ++ more) = capitalizeChars word ++ more := by
  cases word with
  | nil => exact absurd rfl inhabited
  | cons c word => exact (List.append_assoc _ _ _).symm

/-- The word that is being read is the beginning of the first word. What follows it there and in the
other words, which are capitalised, is the rest of the text made again. -/
theorem exists_wordsAfter_eq (inhabited : word ≠ []) (mayEnd : Bool)
    (plain : ∀ c ∈ cs, c.isAlphanum = true) : ∃ more later,
    wordsAfter word mayEnd cs = (word ++ more) :: later ∧
      more ++ later.flatMap capitalizeChars = recase mayEnd cs := by
  induction cs generalizing word mayEnd with
  | nil => exact ⟨[], [], by rw [wordsAfter, closeWord_of_ne_nil inhabited, List.append_nil], rfl⟩
  | cons c rest ih =>
    obtain ⟨letter, others⟩ := List.forall_mem_cons.mp plain
    rw [wordsAfter, not_isSeparator_of_isAlphanum letter, if_neg Bool.false_ne_true, recase]
    split
    · have small : lower c ≠ [] := by simp [lower_of_isAlphanum letter]
      obtain ⟨more, later, same, made⟩ := ih small (endsWord c) others
      refine ⟨[], (lower c ++ more) :: later, ?_, ?_⟩
      · rw [closeWord_of_ne_nil inhabited, same, List.append_nil, List.singleton_append]
      · rw [List.nil_append, List.flatMap_cons, capitalizeChars_append small, List.append_assoc,
          made]
    · have longer : word ++ lower c ≠ [] := List.append_ne_nil_of_left_ne_nil inhabited _
      obtain ⟨more, later, same, made⟩ := ih longer (endsWord c) others
      refine ⟨lower c ++ more, later, ?_, ?_⟩
      · rw [same, List.append_assoc]
      · rw [List.append_assoc, made]

/-- The words of a text without separators joined again. -/
theorem joinCamel_wordsAfter (inhabited : word ≠ []) (mayEnd : Bool)
    (plain : ∀ c ∈ cs, c.isAlphanum = true) :
    joinCamel (wordsAfter word mayEnd cs) = word ++ recase mayEnd cs := by
  obtain ⟨more, later, same, made⟩ := exists_wordsAfter_eq inhabited mayEnd plain
  rw [same, joinCamel, List.append_assoc, made]

/-- **One step**: a character stays unless it is a capital letter behind another one. -/
theorem exists_recase (plain : previous.isAlphanum = true) (plain' : c.isAlphanum = true)
    (rest : List Char) : ∃ made,
    recase (endsWord previous) (c :: rest) = made :: recase (endsWord c) rest ∧
      (made = c ↔ Uneven previous c) := by
  rw [recase, isUpper_of_ascii (ascii_of_isAlphanum plain'), endsWord_of_isAlphanum plain, Uneven]
  cases capital : c.isUpper with
  | false =>
    refine ⟨c, ?_, by simp⟩
    rw [Bool.false_and, if_neg Bool.false_ne_true, lower_of_isAlphanum plain',
      toLower_of_not_isUpper capital]
    rfl
  | true =>
    cases previous.isUpper with
    | false =>
      refine ⟨c, ?_, by simp⟩
      rw [Bool.not_false, Bool.and_true, if_pos rfl, capitalizeChars_lower capital]
      rfl
    | true =>
      refine ⟨c.toLower, ?_, by simpa using toLower_ne capital⟩
      rw [Bool.not_true, Bool.and_false, if_neg Bool.false_ne_true, lower_of_isAlphanum plain']
      rfl

/-- **A whole text** stays when no two capital letters stand side by side. -/
theorem recase_eq_self_iff (plain : previous.isAlphanum = true)
    (plain' : ∀ c ∈ cs, c.isAlphanum = true) :
    recase (endsWord previous) cs = cs ↔ (previous :: cs).IsChain Uneven := by
  -- The character before a text is all that is known of what was read.
  induction cs generalizing previous with
  | nil => simp [recase]
  | cons c rest ih =>
    obtain ⟨letter, others⟩ := List.forall_mem_cons.mp plain'
    obtain ⟨made, same, stays⟩ := exists_recase plain letter rest
    rw [same, List.cons.injEq, stays, ih letter others, List.isChain_cons_cons]

/-- **A text of letters and digits** that does not start with a capital is the name of its words
exactly when it has no two capitals side by side. -/
theorem joinCamel_eq_self_iff (plain : ∀ c ∈ cs, c.isAlphanum = true)
    (small : ∀ c ∈ cs.head?, c.isUpper = false) :
    joinCamel (wordsOf cs) = cs ↔ cs.IsChain Uneven := by
  cases cs with
  | nil => simp [wordsOf, wordsAfter, closeWord, joinCamel]
  | cons c rest =>
    obtain ⟨letter, others⟩ := List.forall_mem_cons.mp plain
    have kept : lower c = [c] := by
      rw [lower_of_isAlphanum letter, toLower_of_not_isUpper (small c rfl)]
    have started : wordsOf (c :: rest) = wordsAfter (lower c) (endsWord c) rest := by
      rw [wordsOf, wordsAfter, not_isSeparator_of_isAlphanum letter, if_neg Bool.false_ne_true,
        Bool.and_false, if_neg Bool.false_ne_true, List.nil_append]
    rw [started, joinCamel_wordsAfter (by simp [kept]) _ others, kept, List.singleton_append,
      List.cons.injEq, and_iff_right rfl, recase_eq_self_iff letter others]

end Recase

/-! ### Names made of words -/

/-- **A word of a key**: small letters and digits, at least one. -/
structure IsWord (word : List Char) : Prop where
  inhabited : word ≠ []
  small : ∀ c ∈ word, c.isLower = true ∨ c.isDigit = true

/-- Whether a text is one letter. -/
def IsLetter (text : List Char) : Prop := ∃ c, text = [c] ∧ c.isAlpha = true

/-- Whether a text starts with a letter. -/
def StartsWithLetter (text : List Char) : Prop := ∃ c ∈ text.head?, c.isAlpha = true

section Names

variable {word next : List Char} {c : Char}

theorem upper_of_small (small : c.isLower = true ∨ c.isDigit = true) : upper c = [c.toUpper] :=
  upper_of_ascii (ascii_of_isAlphanum (isAlphanum_of_small small))

/-- A word in a name: its first character may be a capital, all others are not. -/
theorem IsWord.exists_capitalized (isWord : IsWord word) : ∃ c others,
    word = c :: others ∧ capitalizeChars word = c.toUpper :: others ∧
      c.toUpper.isUpper = c.isAlpha ∧ ∀ d ∈ others, d.isUpper = false := by
  cases word with
  | nil => exact absurd rfl isWord.inhabited
  | cons c others =>
    obtain ⟨small, smalls⟩ := List.forall_mem_cons.mp isWord.small
    refine ⟨c, others, rfl, ?_, isUpper_toUpper_eq c, fun d member =>
      not_isUpper_of_small (smalls d member)⟩
    rw [capitalizeChars, upper_of_small small, List.singleton_append]

theorem isChain_uneven_of_small {cs : List Char} (small : ∀ d ∈ cs, d.isUpper = false) (c : Char) :
    (c :: cs).IsChain Uneven := by
  refine List.Pairwise.isChain (List.pairwise_cons.mpr ⟨fun d member both => ?_, ?_⟩)
  · rw [small d member] at both
    exact Bool.false_ne_true both.2
  · refine List.pairwise_of_forall_mem_list fun d member e member' both => ?_
    rw [small d member] at both
    exact Bool.false_ne_true both.1

theorem IsWord.isChain_capitalizeChars (isWord : IsWord word) :
    (capitalizeChars word).IsChain Uneven := by
  obtain ⟨c, others, _, made, _, small⟩ := isWord.exists_capitalized
  rw [made]
  exact isChain_uneven_of_small small c.toUpper

/-- A word in a name ends in a capital when it is one letter. -/
theorem IsWord.capital_last_iff (isWord : IsWord word) :
    (∃ c ∈ (capitalizeChars word).getLast?, c.isUpper = true) ↔ IsLetter word := by
  obtain ⟨c, others, rfl, made, letter, small⟩ := isWord.exists_capitalized
  rw [made]
  cases others with
  | nil => simp [IsLetter, letter]
  | cons d others =>
    have last : ∀ e ∈ (c.toUpper :: d :: others).getLast?, e.isUpper = false := by
      intro e member
      rw [List.getLast?_cons_cons] at member
      exact small e (List.mem_of_getLast? member)
    constructor
    · rintro ⟨e, member, capital⟩
      rw [last e member] at capital
      cases capital
    · rintro ⟨e, same, _⟩
      cases same

/-- A word in a name starts with a capital when it starts with a letter. -/
theorem IsWord.capital_head_iff (isWord : IsWord word) :
    (∃ c ∈ (capitalizeChars word).head?, c.isUpper = true) ↔ StartsWithLetter word := by
  obtain ⟨c, others, rfl, made, letter, _⟩ := isWord.exists_capitalized
  simp [made, StartsWithLetter, letter]

/-- **Two capitals stand side by side** where a word of one letter comes before another word that
starts with a letter. -/
theorem uneven_ends_iff (isWord : IsWord word) (isWord' : IsWord next) :
    (∀ c ∈ (capitalizeChars word).getLast?, ∀ d ∈ (capitalizeChars next).head?, Uneven c d) ↔
      ¬(IsLetter word ∧ StartsWithLetter next) := by
  rw [← isWord.capital_last_iff, ← isWord'.capital_head_iff]
  constructor
  · rintro uneven ⟨⟨c, last, capital⟩, d, head, capital'⟩
    exact uneven c last d head ⟨capital, capital'⟩
  · intro apart c last d head both
    exact apart ⟨⟨c, last, both.1⟩, d, head, both.2⟩

/-- **A name made of words has no two capitals side by side** when no word of one letter, other than
the first word, comes before a word that starts with a letter. -/
theorem isChain_joinCamel_iff {words : List (List Char)} (areWords : ∀ word ∈ words, IsWord word) :
    (joinCamel words).IsChain Uneven ↔
      words.tail.IsChain fun word next => ¬(IsLetter word ∧ StartsWithLetter next) := by
  cases words with
  | nil => simp [joinCamel]
  | cons first rest =>
    obtain ⟨isFirst, others⟩ := List.forall_mem_cons.mp areWords
    have plain : ∀ c ∈ first, c.isUpper = false := fun c member =>
      not_isUpper_of_small (isFirst.small c member)
    -- No word has two capitals, and the first one has none; left are the ends of neighbours.
    have filled : [] ∉ first :: rest.map capitalizeChars := by
      rw [List.mem_cons, not_or, List.mem_map]
      refine ⟨Ne.symm isFirst.inhabited, ?_⟩
      rintro ⟨word, member, empty⟩
      obtain ⟨c, more, _, made, _⟩ := (others word member).exists_capitalized
      rw [empty] at made
      cases made
    have inside : ∀ part ∈ first :: rest.map capitalizeChars, part.IsChain Uneven := by
      rw [List.forall_mem_cons, List.forall_mem_map]
      obtain ⟨c, more, same, _, _, small⟩ := isFirst.exists_capitalized
      exact ⟨same ▸ isChain_uneven_of_small small c, fun word member =>
        (others word member).isChain_capitalizeChars⟩
    have firstEnds : ∀ part ∈ (rest.map capitalizeChars).head?, ∀ c ∈ first.getLast?,
        ∀ d ∈ part.head?, Uneven c d := by
      intro part _ c last d _ both
      rw [plain c (List.mem_of_getLast? last)] at both
      exact Bool.false_ne_true both.1
    have parts : joinCamel (first :: rest) = (first :: rest.map capitalizeChars).flatten := by
      rw [joinCamel, List.flatten_cons, List.flatMap_def]
    rw [parts, List.isChain_flatten filled, and_iff_right inside, List.isChain_cons,
      and_iff_right firstEnds, List.isChain_map, List.tail_cons,
      List.isChain_iff_forall_rel_of_append_cons_cons,
      List.isChain_iff_forall_rel_of_append_cons_cons]
    have among {word next : List Char} {before after : List (List Char)}
        (split : rest = before ++ word :: next :: after) :=
      uneven_ends_iff (others word (by simp [split])) (others next (by simp [split]))
    exact ⟨fun chain _ _ _ _ split => (among split).mp (chain split),
      fun apart _ _ _ _ split => (among split).mpr (apart split)⟩

end Names

/-! ### Keys -/

section Key

variable {key : String}
  (characters : ∀ c ∈ key.toList, c.isAlphanum = true ∨ c ∈ ['_', '.', '-', ' '])
include characters

/-- The words of a key of letters, digits and separators. -/
theorem isWord_of_mem_wordsOf {word : List Char} (member : word ∈ wordsOf key.toList) :
    IsWord word := by
  refine ⟨fun empty => nil_not_mem_wordsOf key.toList (empty ▸ member), fun c inside => ?_⟩
  have letter : c ∈ lowerAll (key.toList.filter (!isSeparator ·)) := by
    rw [← flatten_wordsOf]
    exact List.mem_flatten.mpr ⟨word, member, inside⟩
  obtain ⟨d, here, made⟩ := List.mem_flatMap.mp letter
  obtain ⟨inKey, other⟩ := List.mem_filter.mp here
  have plain : d.isAlphanum = true := (characters d inKey).resolve_right fun separates => by
    rw [isSeparator_iff.mpr separates] at other
    cases other
  rw [lower_of_isAlphanum plain, List.mem_singleton] at made
  rw [made]
  exact isLower_or_isDigit_toLower plain

/-- The name of such a key has letters and digits only. -/
theorem isAlphanum_of_mem_camelCase {c : Char} (member : c ∈ joinCamel (wordsOf key.toList)) :
    c.isAlphanum = true := by
  have small : ∀ d ∈ (wordsOf key.toList).flatten, d.isLower = true ∨ d.isDigit = true := by
    intro d inside
    obtain ⟨word, among, here⟩ := List.mem_flatten.mp inside
    exact (isWord_of_mem_wordsOf characters among).small d here
  rcases mem_joinCamel member with kept | ⟨d, inside, capital⟩
  · exact isAlphanum_of_small (small c kept)
  · rw [upper_of_small (small d inside), List.mem_singleton] at capital
    rw [capital]
    exact isAlphanum_toUpper (isAlphanum_of_small (small d inside))

/-- The name of such a key does not start with a capital. -/
theorem not_isUpper_head_camelCase {c : Char} (head : c ∈ (joinCamel (wordsOf key.toList)).head?) :
    c.isUpper = false := by
  rw [head?_joinCamel (nil_not_mem_wordsOf _)] at head
  obtain ⟨word, among, here⟩ := List.mem_flatten.mp (List.mem_of_mem_head? head)
  exact not_isUpper_of_small ((isWord_of_mem_wordsOf characters among).small c here)

/-- A name stays as it is when no word of one letter, other than the first word of its key, comes
before a word that starts with a letter. -/
theorem camelCase_camelCase_iff : camelCase (camelCase key) = camelCase key ↔
    (wordsOf key.toList).tail.IsChain fun word next =>
      ¬(IsLetter word ∧ StartsWithLetter next) := by
  have plain : ∀ c ∈ joinCamel (wordsOf key.toList), c.isAlphanum = true :=
    fun c => isAlphanum_of_mem_camelCase characters
  have small : ∀ c ∈ (joinCamel (wordsOf key.toList)).head?, c.isUpper = false :=
    fun c => not_isUpper_head_camelCase characters
  rw [← isChain_joinCamel_iff fun word => isWord_of_mem_wordsOf characters,
    ← joinCamel_eq_self_iff plain small, camelCase, camelCase, String.toList_ofList,
    String.ofList_inj]

end Key

/-- Neighbours behind the first item of a list, one by one. -/
theorem isChain_tail_iff {α : Type} {p : α → α → Prop} {items : List α} :
    (items.tail.IsChain fun item next => ¬p item next) ↔
      ¬∃ before item next after, items = before ++ item :: next :: after ∧ before ≠ [] ∧
        p item next := by
  rw [List.isChain_iff_forall_rel_of_append_cons_cons]
  constructor
  · rintro apart ⟨before, item, next, after, rfl, inhabited, holds⟩
    obtain ⟨first, before, rfl⟩ := List.exists_cons_of_ne_nil inhabited
    exact apart rfl holds
  · intro none item next before after split holds
    cases items with
    | nil => simp at split
    | cons first rest =>
      have whole : first :: rest = (first :: before) ++ item :: next :: after :=
        congrArg (first :: ·) split
      exact none ⟨first :: before, item, next, after, whole, List.cons_ne_nil _ _, holds⟩

/-- **The keys whose names stay as they are.** The name of a key of letters, digits and separators,
made into a name again, is the same exactly when none of the words of the key, other than the first
one, is a single letter that is immediately followed by a word that starts with a letter. -/
theorem camelCase_stable_iff {key : String}
    (characters : ∀ c ∈ key.toList, c.isAlphanum = true ∨ c ∈ ['_', '.', '-', ' ']) :
    camelCase (camelCase key) = camelCase key ↔
      ¬∃ before word next after, splitWords key = before ++ word :: next :: after ∧ before ≠ [] ∧
        IsLetter word.toList ∧ StartsWithLetter next.toList := by
  rw [camelCase_camelCase_iff characters, ← isChain_tail_iff, splitWords, ← List.map_tail,
    List.isChain_map]
  simp only [String.toList_ofList]

/-- Keys with a word of one letter: before a digit its name stays, before a letter it does not. -/
theorem coordinate_names :
    camelCase "get.x_2_id" = "getX2Id" ∧
      (¬∃ before word next after, splitWords "get.x_2_id" = before ++ word :: next :: after ∧
        before ≠ [] ∧ IsLetter word.toList ∧ StartsWithLetter next.toList) ∧
      splitWords "get.x_id" = ["get", "x", "id"] ∧
      camelCase (camelCase "get.x_id") ≠ camelCase "get.x_id" := by
  have digits : ∀ c ∈ "get.x_2_id".toList, c.isAlphanum = true ∨ c ∈ ['_', '.', '-', ' '] := by
    simp
  have letters : ∀ c ∈ "get.x_id".toList, c.isAlphanum = true ∨ c ∈ ['_', '.', '-', ' '] := by
    simp
  have words : splitWords "get.x_id" = ["get", "x", "id"] := by decide
  refine ⟨by decide, (camelCase_stable_iff digits).mp (by decide +kernel), words, ?_⟩
  intro stays
  exact (camelCase_stable_iff letters).mp stays
    ⟨["get"], "x", "id", [], words, List.cons_ne_nil _ _, ⟨'x', rfl, rfl⟩, 'i', rfl, rfl⟩

end ElmCodec.Elm
