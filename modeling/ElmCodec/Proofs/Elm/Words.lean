/-
**What the words of a text hold.**

Cutting a text into words drops the separators and puts the letters in lower case; nothing else is
lost, and nothing is added. Joining the words again changes the case of first letters only.

* `flatten_wordsOf` — **the words of a text**, one behind the other.
* `head?_camelCase` — what a name made of words starts with.
* `map_toLower_camelCase` — **a name differs from its text in case alone**, but for the separators,
  if the text is ASCII.
* `underscore_not_mem_camelCase` — no name made of words has an underscore, in the whole of Unicode.
-/

import ElmCodec.Proofs.Elm.Names

namespace ElmCodec

/-! ### Letter case -/

namespace Text

variable {c : Char}

/-- What holds of the first 128 characters can be looked up. -/
theorem forall_ascii {p : Char → Prop} (each : ∀ code < 128, p (Char.ofNat code))
    (ascii : c.toNat < 128) : p c := by
  rw [← Char.ofNat_toNat c]
  exact each c.toNat ascii

/-- The lower case of an upper case is that of the character. -/
theorem map_toLower_upper (ascii : c.toNat < 128) : (upper c).map Char.toLower = [c.toLower] :=
  forall_ascii (p := fun c => (upper c).map Char.toLower = [c.toLower]) (by decide +kernel) ascii

/-- A lower case is its own. -/
theorem lowered_of_mem_lower {d : Char} (ascii : c.toNat < 128) (member : d ∈ lower c) :
    d.toNat < 128 ∧ d.toLower = d := by
  have all : ((lower c).all fun d => decide (d.toNat < 128 ∧ d.toLower = d)) = true :=
    forall_ascii (p := fun c => (lower c).all (fun d => decide (d.toNat < 128 ∧ d.toLower = d)) = true)
      (by decide +kernel) ascii
  exact of_decide_eq_true (List.all_eq_true.mp all d member)

theorem lowerAll_of_ascii {cs : List Char} (ascii : ∀ c ∈ cs, c.toNat < 128) :
    lowerAll cs = cs.map Char.toLower := by
  rw [lowerAll, List.map_eq_flatMap]
  exact List.flatMap_congr fun c member => lower_of_ascii (ascii c member)

/-- A table does not lead to a character that lies outside of the image of each row. -/
theorem lookup_ne_some {rows : List CaseRange} {code : Nat} (visible : c.toNat ≠ 0)
    (clear : ∀ row ∈ rows, (c.toNat : Int) < row.first + row.shift ∨
      row.last + row.shift < (c.toNat : Int)) : CaseRange.lookup rows code ≠ some c := by
  intro found
  obtain ⟨row, first, same⟩ := Option.map_eq_some_iff.mp found
  obtain ⟨holds, _⟩ := List.find?_eq_some_iff_append.mp first
  have bounds : row.first ≤ code ∧ code ≤ row.last := by
    simp only [CodeRange.holds, Bool.and_eq_true, decide_eq_true_eq] at holds
    exact holds.1
  by_cases valid : ((code : Int) + row.shift).toNat.isValidChar
  · have image : ((code : Int) + row.shift).toNat = c.toNat := by
      rw [← same, Char.ofNat, dif_pos valid]
      rfl
    rcases clear row (List.mem_of_find?_eq_some first) with before | behind <;> omega
  · refine visible ?_
    rw [← same, Char.ofNat, dif_neg valid]
    rfl

/-- No other character is an underscore in lower case. -/
theorem eq_of_underscore_mem_lower (member : '_' ∈ lower c) : c = '_' := by
  unfold lower at member
  split at member
  · next ascii =>
    exact forall_ascii (p := fun c => '_' ∈ [c.toLower] → c = '_') (by decide +kernel) ascii member
  · split at member
    · exact absurd member (by decide)
    · have apart : CaseRange.lookup lowerRows c.toNat ≠ some '_' :=
        lookup_ne_some (by decide) (by decide +kernel)
      cases found : CaseRange.lookup lowerRows c.toNat with
      | none =>
        rw [found] at member
        exact (List.mem_singleton.mp member).symm
      | some image =>
        rw [found] at member apart
        exact absurd (congrArg some (List.mem_singleton.mp member)).symm apart

/-- No other character is an underscore in upper case. -/
theorem eq_of_underscore_mem_upper (member : '_' ∈ upper c) : c = '_' := by
  unfold upper at member
  split at member
  · next ascii =>
    exact forall_ascii (p := fun c => '_' ∈ [c.toUpper] → c = '_') (by decide +kernel) ascii member
  · split at member
    · next codes found =>
      have clear : ∀ entry ∈ upperExpansions, '_' ∉ entry.2.map Char.ofNat := by decide +kernel
      exact absurd member (clear _ (List.mem_of_find?_eq_some found))
    · have apart : CaseRange.lookup upperRows c.toNat ≠ some '_' :=
        lookup_ne_some (by decide) (by decide +kernel)
      cases found : CaseRange.lookup upperRows c.toNat with
      | none =>
        rw [found] at member
        exact (List.mem_singleton.mp member).symm
      | some image =>
        rw [found] at member apart
        exact absurd (congrArg some (List.mem_singleton.mp member)).symm apart

end Text

namespace Elm

open ElmCodec.Text

/-! ### Letters and separators -/

section Characters

variable {c : Char}

theorem isSeparator_iff : isSeparator c = true ↔ c ∈ ['_', '.', '-', ' '] := by
  simp [isSeparator, or_assoc]

theorem toLower_of_not_isUpper (small : c.isUpper = false) : c.toLower = c :=
  dif_neg (of_decide_eq_false small : ¬ (c.val ≥ 'A'.val ∧ c.val ≤ 'Z'.val))

/-- Letters are what is small in lower case. -/
theorem isLower_toLower_eq (c : Char) : c.toLower.isLower = c.isAlpha := by
  unfold Char.isAlpha
  cases upper : c.isUpper with
  | true => rw [isLower_toLower upper, Bool.true_or]
  | false => rw [toLower_of_not_isUpper upper, Bool.false_or]

/-- A letter is no separator. -/
theorem not_isSeparator_of_isAlpha (letter : c.isAlpha = true) : isSeparator c = false := by
  cases separates : isSeparator c with
  | false => rfl
  | true =>
    have none : (['_', '.', '-', ' '].all (!·.isAlpha)) = true := by decide
    have other := List.all_eq_true.mp none c (isSeparator_iff.mp separates)
    simp [letter] at other

end Characters

/-! ### Words -/

theorem flatten_closeWord (word : List Char) : (closeWord word).flatten = word := by
  cases word <;> simp [closeWord]

theorem closeWord_of_ne_nil {word : List Char} (inhabited : word ≠ []) : closeWord word = [word] :=
  if_neg (by simpa using inhabited)

/-- **Nothing is lost but separators** when a text is cut into words. -/
theorem flatten_wordsAfter (word : List Char) (mayEnd : Bool) (cs : List Char) :
    (wordsAfter word mayEnd cs).flatten = word ++ lowerAll (cs.filter (!isSeparator ·)) := by
  induction cs generalizing word mayEnd with
  | nil => simp [wordsAfter, flatten_closeWord, lowerAll]
  | cons c rest ih =>
    unfold wordsAfter
    by_cases separates : isSeparator c = true
    · simp [separates, ih, flatten_closeWord]
    · by_cases starts : (isUpper c && mayEnd) = true
      · simp [separates, starts, ih, flatten_closeWord, lowerAll]
      · simp [separates, starts, ih, lowerAll]

/-- **The words of a text**, one behind the other, are its characters in lower case, but for the
separators. -/
theorem flatten_wordsOf (cs : List Char) :
    (wordsOf cs).flatten = lowerAll (cs.filter (!isSeparator ·)) :=
  flatten_wordsAfter [] false cs

theorem nil_not_mem_closeWord (word : List Char) : [] ∉ closeWord word := by
  cases word <;> simp [closeWord]

theorem nil_not_mem_wordsAfter (word : List Char) (mayEnd : Bool) (cs : List Char) :
    [] ∉ wordsAfter word mayEnd cs := by
  induction cs generalizing word mayEnd with
  | nil => exact nil_not_mem_closeWord word
  | cons c rest ih =>
    unfold wordsAfter
    split
    · simp [nil_not_mem_closeWord, ih]
    · split
      · simp [nil_not_mem_closeWord, ih]
      · exact ih _ _

theorem nil_not_mem_wordsOf (cs : List Char) : [] ∉ wordsOf cs := nil_not_mem_wordsAfter [] false cs

/-! ### Names made of words -/

section Joined

variable {words : List (List Char)}

/-- A name starts as its first word does. -/
theorem head?_joinCamel (filled : [] ∉ words) : (joinCamel words).head? = words.flatten.head? := by
  cases words with
  | nil => rfl
  | cons first rest =>
    cases first with
    | nil => exact absurd List.mem_cons_self filled
    | cons c others => rfl

theorem mem_capitalizeChars {c : Char} {word : List Char} (member : c ∈ capitalizeChars word) :
    c ∈ word ∨ ∃ d ∈ word, c ∈ upper d := by
  cases word with
  | nil => cases member
  | cons first rest =>
    rcases List.mem_append.mp member with capital | later
    · exact .inr ⟨first, List.mem_cons_self, capital⟩
    · exact .inl (List.mem_cons_of_mem _ later)

/-- A name holds the characters of its words, some of them in upper case. -/
theorem mem_joinCamel {c : Char} (member : c ∈ joinCamel words) :
    c ∈ words.flatten ∨ ∃ d ∈ words.flatten, c ∈ upper d := by
  cases words with
  | nil => cases member
  | cons first rest =>
    rcases List.mem_append.mp member with inFirst | later
    · exact .inl (List.mem_append_left _ inFirst)
    · obtain ⟨word, inside, found⟩ := List.mem_flatMap.mp later
      have among : ∀ d ∈ word, d ∈ (first :: rest).flatten := fun d here =>
        List.mem_append_right _ (List.mem_flatten.mpr ⟨word, inside, here⟩)
      rcases mem_capitalizeChars found with kept | ⟨d, here, capital⟩
      · exact .inl (among c kept)
      · exact .inr ⟨d, among d here, capital⟩

theorem map_toLower_of_lowered {cs : List Char} (lowered : ∀ c ∈ cs, c.toLower = c) :
    cs.map Char.toLower = cs := by
  rw [List.map_congr_left lowered, List.map_id']

theorem map_toLower_capitalizeChars {word : List Char}
    (lowered : ∀ c ∈ word, c.toNat < 128 ∧ c.toLower = c) :
    (capitalizeChars word).map Char.toLower = word := by
  cases word with
  | nil => rfl
  | cons first rest =>
    obtain ⟨⟨ascii, kept⟩, others⟩ := List.forall_mem_cons.mp lowered
    rw [capitalizeChars, List.map_append, map_toLower_upper ascii, kept,
      map_toLower_of_lowered fun c member => (others c member).2]
    rfl

/-- In lower case a name is its words again. -/
theorem map_toLower_joinCamel (lowered : ∀ c ∈ words.flatten, c.toNat < 128 ∧ c.toLower = c) :
    (joinCamel words).map Char.toLower = words.flatten := by
  cases words with
  | nil => rfl
  | cons first rest =>
    rw [List.flatten_cons] at lowered ⊢
    have inFirst : first.map Char.toLower = first :=
      map_toLower_of_lowered fun c member => (lowered c (List.mem_append_left _ member)).2
    have inRest : (rest.flatMap capitalizeChars).map Char.toLower = rest.flatten := by
      rw [List.map_flatMap, ← List.flatMap_id]
      refine List.flatMap_congr fun word member => map_toLower_capitalizeChars fun c here => ?_
      exact lowered c (List.mem_append_right _ (List.mem_flatten.mpr ⟨word, member, here⟩))
    rw [joinCamel, List.map_append, inFirst, inRest]

end Joined

section CamelCase

variable {text : String}

/-- A name made of words starts with the first character that is no separator, in lower case. -/
theorem head?_camelCase (text : String) : (camelCase text).toList.head? =
    (lowerAll (text.toList.filter (!isSeparator ·))).head? := by
  rw [camelCase, String.toList_ofList, head?_joinCamel (nil_not_mem_wordsOf _), flatten_wordsOf]

/-- **A name made of words differs from its text in case alone**, but for the separators. -/
theorem map_toLower_camelCase (ascii : ∀ c ∈ text.toList, c.toNat < 128) :
    (camelCase text).toList.map Char.toLower =
      (text.toList.filter (!isSeparator ·)).map Char.toLower := by
  have ascii' : ∀ c ∈ text.toList.filter (!isSeparator ·), c.toNat < 128 :=
    fun c member => ascii c (List.mem_filter.mp member).1
  have lowered : ∀ c ∈ (wordsOf text.toList).flatten, c.toNat < 128 ∧ c.toLower = c := by
    intro c member
    rw [flatten_wordsOf, lowerAll, List.mem_flatMap] at member
    obtain ⟨d, here, same⟩ := member
    exact lowered_of_mem_lower (ascii' d here) same
  rw [camelCase, String.toList_ofList, map_toLower_joinCamel lowered, flatten_wordsOf,
    lowerAll_of_ascii ascii']

/-- **No name made of words has an underscore.** It separates words, and no other character is one
in another case. -/
theorem underscore_not_mem_camelCase (text : String) : '_' ∉ (camelCase text).toList := by
  have absent : '_' ∉ (wordsOf text.toList).flatten := by
    rw [flatten_wordsOf, lowerAll, List.mem_flatMap]
    rintro ⟨c, member, underscore⟩
    obtain rfl := eq_of_underscore_mem_lower underscore
    exact absurd (List.mem_filter.mp member).2 (by decide)
  rw [camelCase, String.toList_ofList]
  intro member
  rcases mem_joinCamel member with inside | ⟨c, inside, underscore⟩
  · exact absent inside
  · exact absent (eq_of_underscore_mem_upper underscore ▸ inside)

end CamelCase

end Elm

end ElmCodec
