/-
**The texts of a type.**

Every type has one spelling. A text has a type exactly when it is the spelling of the type with
blank characters put at its ends and at the inner sides of its brackets; a text that has none is
refused with what is left of it when no more brackets can be taken away.

* `FieldType.spell` — the spelling of a type.
* `FieldType.Padded` — a text with blank characters put around it and inside its brackets.
* `FieldType.Innermost` — what a text has inside all of its brackets.
* `FieldType.trimChars_eq_iff` — trimming finds the one text without blank ends that is inside.
* `FieldType.parseWithin_enclosed`, `FieldType.parseWithin_bare` — the steps of the parser.
* `Elm.plain_of_displayName` — the name of a record has no blank characters and no brackets.
* `Schema.parseType_grammar` — **the texts that have a type**, and the refusals of the others.
-/

import ElmCodec.Proofs.Codec.Resolved

namespace ElmCodec

open ElmCodec.Text

namespace FieldType

/-! ### Blank ends -/

/-- A text between blank characters. -/
def BlankAround (text around : List Char) : Prop :=
  ∃ before after, before.all isBlank = true ∧ after.all isBlank = true ∧
    around = before ++ text ++ after

/-- A text that neither starts nor ends with a blank character. -/
structure Stripped (text : List Char) : Prop where
  start : ∀ c ∈ text.head?, isBlank c = false
  stop : ∀ c ∈ text.getLast?, isBlank c = false

theorem blankAround_self (text : List Char) : BlankAround text text := ⟨[], [], rfl, rfl, by simp⟩

theorem dropWhile_append_of_head? {α : Type} {drop : α → Bool} {before text : List α}
    (dropped : before.all drop = true) (kept : ∀ item ∈ text.head?, drop item = false) :
    (before ++ text).dropWhile drop = text := by
  rw [List.dropWhile_append_of_pos (by simpa using dropped)]
  cases text with
  | nil => rfl
  | cons first rest => exact List.dropWhile_cons_of_neg (by simp [kept first rfl])

theorem head?_dropWhile {α : Type} {drop : α → Bool} {items : List α} :
    ∀ item ∈ (items.dropWhile drop).head?, drop item = false := by
  intro item first
  have stopped := List.head?_dropWhile_not drop items
  rwa [Option.mem_def.mp first] at stopped

/-- What is dropped at the end of a list, and that what is left does not end in it. -/
theorem exists_dropEnd {α : Type} (drop : α → Bool) (items : List α) :
    (∃ after, after.all drop = true ∧ items = dropEnd drop items ++ after) ∧
      ∀ item ∈ (dropEnd drop items).getLast?, drop item = false := by
  refine ⟨⟨(items.reverse.takeWhile drop).reverse, ?_, ?_⟩, ?_⟩
  · rw [List.all_reverse, List.all_takeWhile]
  · rw [dropEnd, ← List.reverse_append, List.takeWhile_append_dropWhile, List.reverse_reverse]
  · rw [dropEnd, List.getLast?_reverse]
    exact head?_dropWhile

/-- **Trimming** finds the one text without blank ends that stands between blank characters. -/
theorem trimChars_eq_iff {text token : List Char} :
    trimChars text = token ↔ BlankAround token text ∧ Stripped token := by
  constructor
  · rintro rfl
    obtain ⟨⟨after, blank, whole⟩, stop⟩ := exists_dropEnd isBlank (text.dropWhile isBlank)
    refine ⟨⟨text.takeWhile isBlank, after, List.all_takeWhile, blank, ?_⟩, ?_, stop⟩
    · rw [List.append_assoc, trimChars, ← whole, List.takeWhile_append_dropWhile]
    · -- The first character that is left stands in front of those that are dropped at the end.
      intro c first
      have leading : c ∈ (text.dropWhile isBlank).head? := by
        rw [whole, List.head?_append]
        exact congrArg (·.or after.head?) (Option.mem_def.mp first)
      exact head?_dropWhile c leading
  · rintro ⟨⟨before, after, blankBefore, blankAfter, rfl⟩, start, stop⟩
    cases token with
    | nil =>
      rw [trimChars_eq_nil_iff, List.append_nil, List.all_append, blankBefore, blankAfter]
      rfl
    | cons first rest =>
      rw [trimChars, List.append_assoc,
        dropWhile_append_of_head? blankBefore (by simpa using start), dropEnd,
        List.reverse_append, dropWhile_append_of_head? (by simpa using blankAfter)
          (by rwa [List.head?_reverse]), List.reverse_reverse]

theorem BlankAround.unique {first second text : List Char} (one : BlankAround first text)
    (two : BlankAround second text) (firstStripped : Stripped first)
    (secondStripped : Stripped second) : first = second :=
  (trimChars_eq_iff.mpr ⟨one, firstStripped⟩).symm.trans
    (trimChars_eq_iff.mpr ⟨two, secondStripped⟩)

/-! ### Brackets -/

/-- What is written with brackets. -/
inductive Container where
  | list
  | dict
  deriving DecidableEq

namespace Container

/-- The bracket in front. -/
def opening : Container → Char
  | list => '['
  | dict => '{'

/-- The bracket behind. -/
def closing : Container → Char
  | list => ']'
  | dict => '}'

/-- The container of elements of a type. -/
def of : Container → FieldType → FieldType
  | list => .list
  | dict => .dict

/-- A text in brackets. -/
def enclose (container : Container) (inner : List Char) : List Char :=
  container.opening :: (inner ++ [container.closing])

theorem not_blank (container : Container) :
    isBlank container.opening = false ∧ isBlank container.closing = false := by
  cases container <;> exact ⟨by decide, by decide⟩

theorem stripped_enclose (container : Container) (inner : List Char) :
    Stripped (container.enclose inner) := by
  constructor
  · intro c first
    cases Option.some.inj first
    exact container.not_blank.1
  · intro c last
    rw [enclose, ← List.cons_append, List.getLast?_concat] at last
    cases Option.some.inj last
    exact container.not_blank.2

theorem enclose_inj {first second : Container} {inner other : List Char} :
    first.enclose inner = second.enclose other ↔ first = second ∧ inner = other := by
  constructor
  · intro same
    obtain ⟨openings, rest⟩ := List.cons.inj same
    have equal : first = second := by
      cases first <;> cases second <;> first | rfl | exact absurd openings (by decide)
    exact ⟨equal, (List.append_inj_left' rest rfl)⟩
  · rintro ⟨rfl, rfl⟩
    rfl

theorem length_enclose (container : Container) (inner : List Char) :
    (container.enclose inner).length = inner.length + 2 := by
  rw [enclose, List.length_cons, List.length_append, List.length_singleton]

end Container

/-- A text without blank ends that has no brackets to take away. -/
structure Bare (token : List Char) : Prop extends Stripped token where
  notEnclosed : ∀ (container : Container) inner, token ≠ container.enclose inner

/-- What stands between the brackets of a text. -/
theorem enclosed_eq_some_iff {container : Container} {text inner : List Char} :
    enclosed container.opening container.closing text = some inner ↔
      text = container.enclose inner := by
  cases text with
  | nil => exact ⟨nofun, nofun⟩
  | cons first rest =>
    rw [enclosed, Container.enclose, List.cons.injEq]
    constructor
    · intro between
      split at between
      · next both =>
        cases between
        exact ⟨both.1, (List.dropLast_append_getLast? _ both.2).symm⟩
      · cases between
    · rintro ⟨rfl, rfl⟩
      rw [if_pos ⟨rfl, List.getLast?_concat⟩, List.dropLast_concat]

theorem enclosed_eq_none {container : Container} {text : List Char}
    (bare : ∀ inner, text ≠ container.enclose inner) :
    enclosed container.opening container.closing text = none :=
  Option.eq_none_iff_forall_ne_some.mpr fun inner between =>
    bare inner (enclosed_eq_some_iff.mp between)

/-- A text is in brackets or bare, apart from blank ends. -/
theorem exists_shape (text : List Char) :
    (∃ (container : Container) (inner : List Char), BlankAround (container.enclose inner) text) ∨
      ∃ token, BlankAround token text ∧ Bare token := by
  obtain ⟨around, stripped⟩ : BlankAround (trimChars text) text ∧ Stripped (trimChars text) :=
    trimChars_eq_iff.mp rfl
  by_cases bracketed : ∃ (container : Container) (inner : List Char),
      trimChars text = container.enclose inner
  · obtain ⟨container, inner, same⟩ := bracketed
    exact .inl ⟨container, inner, same ▸ around⟩
  · exact .inr ⟨_, around, stripped, fun container inner same => bracketed ⟨container, inner, same⟩⟩

/-! ### The steps of the parser -/

section Steps

variable {declares : String → Bool} {text inner token : List Char} {container : Container}

/-- The type of a text without brackets. -/
def parseBare (declares : String → Bool) (token : List Char) : Except SchemaError FieldType :=
  if declares (String.ofList token) then .ok (.record (String.ofList token)) else parseName token

/-- **A text in brackets** has the type of the container of what is in them. -/
theorem parseWithin_enclosed (depth : Nat) (around : BlankAround (container.enclose inner) text) :
    parseWithin declares (depth + 1) text =
      (parseWithin declares depth inner).map container.of := by
  have trimmed : trimChars text = container.enclose inner :=
    trimChars_eq_iff.mpr ⟨around, container.stripped_enclose inner⟩
  have between := enclosed_eq_some_iff.mpr trimmed
  simp only [parseWithin]
  cases container with
  | list => rw [show enclosed '[' ']' _ = some inner from between]; rfl
  | dict =>
    have notList : ∀ inner', trimChars text ≠ Container.list.enclose inner' := fun inner' same =>
      absurd (Container.enclose_inj.mp (trimmed.symm.trans same)).1 (by decide)
    rw [show enclosed '[' ']' _ = none from enclosed_eq_none notList,
      show enclosed '{' '}' _ = some inner from between]
    rfl

/-- **A bare text** is a record or one of the names. -/
theorem parseWithin_bare (depth : Nat) (around : BlankAround token text) (bare : Bare token) :
    parseWithin declares (depth + 1) text = parseBare declares token := by
  have trimmed : trimChars text = token := trimChars_eq_iff.mpr ⟨around, bare.toStripped⟩
  simp only [parseWithin, trimmed]
  rw [show enclosed '[' ']' token = none from enclosed_eq_none (bare.notEnclosed .list),
    show enclosed '{' '}' token = none from enclosed_eq_none (bare.notEnclosed .dict)]
  rfl

/-- What is in brackets is shorter than the text by the brackets at least. -/
theorem BlankAround.length_lt (around : BlankAround (container.enclose inner) text) :
    inner.length + 1 < text.length := by
  obtain ⟨before, after, _, _, rfl⟩ := around
  rw [List.length_append, List.length_append, container.length_enclose]
  omega

/-- **What is said of every text by its brackets**, for a parser with brackets enough. -/
theorem parseWithin_induction {motive : List Char → Except SchemaError FieldType → Prop}
    (enclosed : ∀ (container : Container) inner text outcome,
      BlankAround (container.enclose inner) text → motive inner outcome →
        motive text (outcome.map container.of))
    (bare : ∀ token text, BlankAround token text → Bare token →
      motive text (parseBare declares token))
    (depth : Nat) (text : List Char) (enough : text.length < depth) :
    motive text (parseWithin declares depth text) := by
  induction depth generalizing text with
  | zero => exact absurd enough (Nat.not_lt_zero _)
  | succ depth ih =>
    rcases exists_shape text with ⟨container, inner, around⟩ | ⟨token, around, plain⟩
    · rw [parseWithin_enclosed depth around]
      have shorter := around.length_lt
      exact enclosed container inner text _ around (ih inner (by omega))
    · rw [parseWithin_bare depth around plain]
      exact bare token text around plain

end Steps

/-! ### Spellings -/

/-- The spelling of a type. -/
def spell : FieldType → String
  | bool => "bool"
  | int => "int"
  | string => "string"
  | float => "float"
  | timestamp => "timestamp"
  | value => "value"
  | enumeration name => enumerationStart ++ name
  | record name => name
  | list element => "[" ++ element.spell ++ "]"
  | dict element => "\x7b" ++ element.spell ++ "\x7d"

/-- Every record in a type is declared, and every enumeration has a type name and is not hidden by a
record. -/
def Spellable (declares : String → Bool) : FieldType → Prop
  | record name => declares name = true
  | enumeration name => Elm.isTypeName name = true ∧ declares (enumerationStart ++ name) = false
  | list element | dict element => element.Spellable declares
  | bool | int | string | float | timestamp | value => True

/-- A text with blank characters put at its ends and at the inner sides of brackets around it. -/
inductive Padded : List Char → List Char → Prop
  | ends {canonical text : List Char} : BlankAround canonical text → Padded canonical text
  | inside {canonical inner text : List Char} (container : Container) :
      Padded canonical inner → BlankAround (container.enclose inner) text →
        Padded (container.enclose canonical) text

/-- What is left of a text when its brackets and blank ends are taken away for as long as there are
any. -/
inductive Innermost : List Char → List Char → Prop
  | here {token text : List Char} : BlankAround token text → Bare token → Innermost text token
  | inside {inner text token : List Char} (container : Container) :
      BlankAround (container.enclose inner) text → Innermost inner token → Innermost text token

theorem Innermost.unique {text first second : List Char} (one : Innermost text first)
    (two : Innermost text second) : first = second := by
  induction one generalizing second with
  | here around bare =>
    cases two with
    | here around' bare' => exact around.unique around' bare.toStripped bare'.toStripped
    | inside container around' _ =>
      exact absurd (around.unique around' bare.toStripped (container.stripped_enclose _))
        (bare.notEnclosed _ _)
  | inside container around _ ih =>
    cases two with
    | here around' bare' =>
      exact absurd (around'.unique around bare'.toStripped (container.stripped_enclose _))
        (bare'.notEnclosed _ _)
    | inside container' around' inner' =>
      obtain ⟨_, rfl⟩ := Container.enclose_inj.mp (around.unique around'
        (container.stripped_enclose _) (container'.stripped_enclose _))
      exact ih inner'

@[simp] theorem toList_spell_of (container : Container) (element : FieldType) :
    (container.of element).spell.toList = container.enclose element.spell.toList := by
  cases container <;> simp [Container.of, Container.enclose, Container.opening, Container.closing,
    spell, String.toList_append]

@[simp] theorem spellable_of {declares : String → Bool} (container : Container)
    (element : FieldType) :
    (container.of element).Spellable declares ↔ element.Spellable declares := by
  cases container <;> rfl

/-! ### Names without brackets -/

/-- A text without blank characters and without brackets. -/
def Plain (text : List Char) : Prop :=
  ∀ c ∈ text, isBlank c = false ∧ ∀ container : Container, c ≠ container.opening

theorem Plain.bare {text : List Char} (plain : Plain text) : Bare text where
  start c first := (plain c (List.mem_of_head? first)).1
  stop c last := (plain c (List.mem_of_getLast? last)).1
  notEnclosed container inner same :=
    (plain container.opening (by rw [same]; exact List.mem_cons_self)).2 container rfl

/-- The blank characters. -/
def blanks : List Char :=
  [0x9, 0xA, 0xB, 0xC, 0xD, 0x20, 0x85, 0xA0, 0x1680, 0x2000, 0x2001, 0x2002, 0x2003, 0x2004,
    0x2005, 0x2006, 0x2007, 0x2008, 0x2009, 0x200A, 0x2028, 0x2029, 0x202F, 0x205F,
    0x3000].map Char.ofNat

theorem mem_blanks {c : Char} (blank : isBlank c = true) : c ∈ blanks := by
  rw [blanks, List.mem_map]
  refine ⟨c.toNat, ?_, Char.ofNat_toNat c⟩
  simp only [isBlank, Bool.or_eq_true, Bool.and_eq_true, decide_eq_true_iff, beq_iff_eq] at blank
  simp only [List.mem_cons, List.not_mem_nil, or_false]
  omega

/-- A text is plain when its characters that are their own upper case are points or in names: blank
characters and brackets are neither. -/
theorem plain_of_upper {text : List Char}
    (clear : ∀ c ∈ text, upper c = [c] → Elm.isNameChar c = false → c = '.') : Plain text := by
  intro c member
  have each : (blanks ++ ['[', '{']).all fun c =>
      upper c = [c] ∧ Elm.isNameChar c = false ∧ c ≠ '.' := by
    decide +kernel
  have ordinary : c ∉ blanks ++ ['[', '{'] := by
    intro special
    obtain ⟨same, other, notPoint⟩ := of_decide_eq_true (List.all_eq_true.mp each c special)
    exact notPoint (clear c member same other)
  rw [List.mem_append, not_or] at ordinary
  refine ⟨by simpa using fun blank => ordinary.1 (mem_blanks blank), ?_⟩
  intro container same
  refine ordinary.2 ?_
  rw [same]
  cases container <;> decide

/-- A text of name characters and points is plain. -/
theorem plain_of_letters {text : List Char}
    (letters : text.all (fun c => Elm.isNameChar c || c == '.') = true) : Plain text := by
  refine plain_of_upper fun c member _ other => ?_
  have letter := List.all_eq_true.mp letters c member
  rw [other, Bool.false_or] at letter
  exact eq_of_beq letter

end FieldType

/-- **The name of a record** has no blank characters and no brackets: its type name would have
them, too. -/
theorem Elm.plain_of_displayName {name : String}
    (valid : Elm.isTypeName (Elm.displayName name) = true) : FieldType.Plain name.toList := by
  refine FieldType.plain_of_upper fun c member same other => ?_
  by_contra notPoint
  exact Elm.not_mem_typeName other valid (Elm.mem_displayName same notPoint member)

namespace FieldType

/-- The types whose spelling is a word. -/
def words : List FieldType := [bool, int, string, float, timestamp, value]

theorem plain_word {type : FieldType} (word : type ∈ words) : Plain type.spell.toList := by
  have letters : ∀ type ∈ words,
      type.spell.toList.all (fun c => Elm.isNameChar c || c == '.') = true := by
    decide +kernel
  exact plain_of_letters (letters type word)

theorem plain_enumeration {name : String} (valid : Elm.isTypeName name = true) :
    Plain (enumeration name).spell.toList := by
  refine plain_of_letters ?_
  rw [spell, String.toList_append, List.all_append, Bool.and_eq_true]
  refine ⟨by decide, List.all_eq_true.mpr fun c member => ?_⟩
  rw [Elm.isNameChar_of_mem_typeName valid member, Bool.true_or]

/-! ### The texts of a type -/

section Texts

variable {declares : String → Bool} {type : FieldType} {text inner token : List Char}
variable {container : Container}

/-- The names of records are plain, and none is a word. -/
structure PlainNames (declares : String → Bool) : Prop where
  plain : ∀ name, declares name = true → Plain name.toList
  notWord : ∀ word ∈ words, declares word.spell = false

/-- A type is a container of another one, or its spelling is bare. -/
theorem container_or_bare (names : PlainNames declares) (spellable : type.Spellable declares) :
    (∃ (container : Container) (element : FieldType), type = container.of element) ∨
      Bare type.spell.toList := by
  cases type with
  | list element => exact .inl ⟨.list, element, rfl⟩
  | dict element => exact .inl ⟨.dict, element, rfl⟩
  | record name => exact .inr (names.plain name spellable).bare
  | enumeration name => exact .inr (plain_enumeration spellable.1).bare
  | bool | int | string | float | timestamp | value => exact .inr (plain_word (by decide)).bare

theorem stripped_spell (names : PlainNames declares) (spellable : type.Spellable declares) :
    Stripped type.spell.toList := by
  rcases container_or_bare names spellable with ⟨container, element, rfl⟩ | bare
  · rw [toList_spell_of]
    exact container.stripped_enclose _
  · exact bare.toStripped

/-- Only a container is spelled with brackets around it. -/
theorem spell_eq_enclose (names : PlainNames declares) (spellable : type.Spellable declares)
    (same : type.spell.toList = container.enclose inner) :
    ∃ element, type = container.of element ∧ element.spell.toList = inner := by
  rcases container_or_bare names spellable with ⟨other, element, rfl⟩ | bare
  · rw [toList_spell_of] at same
    obtain ⟨rfl, between⟩ := Container.enclose_inj.mp same
    exact ⟨element, rfl, between⟩
  · exact absurd same (bare.notEnclosed container inner)

/-- **A padded spelling in brackets** is that of a container, padded in the brackets. -/
theorem padded_enclosed_iff (names : PlainNames declares) (spellable : type.Spellable declares)
    (around : BlankAround (container.enclose inner) text) :
    Padded type.spell.toList text ↔
      ∃ element, type = container.of element ∧ Padded element.spell.toList inner := by
  refine ⟨fun padded => ?_, fun ⟨element, same, padded⟩ => ?_⟩
  · generalize spelled : type.spell.toList = canonical at padded
    cases padded with
    | ends around' =>
      have same := around'.unique around (spelled ▸ stripped_spell names spellable)
        (container.stripped_enclose inner)
      obtain ⟨element, whole, between⟩ := spell_eq_enclose names spellable (spelled.trans same)
      exact ⟨element, whole, .ends (between ▸ blankAround_self inner)⟩
    | inside other padded around' =>
      obtain ⟨rfl, rfl⟩ := Container.enclose_inj.mp (around'.unique around
        (other.stripped_enclose _) (container.stripped_enclose _))
      obtain ⟨element, whole, rfl⟩ := spell_eq_enclose names spellable spelled
      exact ⟨element, whole, padded⟩
  · rw [same, toList_spell_of]
    exact .inside container padded around

/-- **A padded spelling without brackets** has blank characters at its ends only. -/
theorem padded_bare_iff (names : PlainNames declares) (spellable : type.Spellable declares)
    (around : BlankAround token text) (bare : Bare token) :
    Padded type.spell.toList text ↔ type.spell.toList = token := by
  refine ⟨fun padded => ?_, fun same => same ▸ .ends around⟩
  generalize spelled : type.spell.toList = canonical at padded
  cases padded with
  | ends around' =>
    exact around'.unique around (spelled ▸ stripped_spell names spellable) bare.toStripped
  | inside container _ around' =>
    exact absurd (around.unique around' bare.toStripped (container.stripped_enclose _))
      (bare.notEnclosed _ _)

/-! ### Bare texts -/

theorem afterStart_eq_some_iff {start rest : List Char} :
    afterStart start token = some rest ↔ token = start ++ rest := by
  induction start generalizing token with
  | nil => simp [afterStart, eq_comm]
  | cons expected start ih =>
    cases token with
    | nil => exact ⟨nofun, nofun⟩
    | cons c cs =>
      rw [afterStart, List.cons_append, List.cons.injEq]
      by_cases same : c = expected
      · rw [if_pos same, ih, and_iff_right same]
      · rw [if_neg same]
        exact ⟨nofun, fun both => absurd both.1 same⟩

/-- The refusal of what is left of a text. -/
def refusal (token : List Char) : SchemaError :=
  if enumerationStart.toList <+: token then .unresolvedReference (String.ofList token)
  else .unknownType (String.ofList token)

theorem refusal_of_afterStart {rest : List Char}
    (started : afterStart enumerationStart.toList token = some rest) :
    refusal token = .unresolvedReference (String.ofList token) :=
  if_pos ⟨rest, (afterStart_eq_some_iff.mp started).symm⟩

theorem refusal_of_not_afterStart (other : afterStart enumerationStart.toList token = none) :
    refusal token = .unknownType (String.ofList token) := by
  refine if_neg fun ⟨rest, same⟩ => ?_
  rw [afterStart_eq_some_iff.mpr same.symm] at other
  cases other

/-- The names that are not those of records. -/
theorem parseName_eq_ok (parsed : parseName token = .ok type) :
    (type ∈ words ∨ ∃ name, type = .enumeration name ∧ Elm.isTypeName name = true) ∧
      type.spell.toList = token := by
  unfold parseName at parsed
  split at parsed
  · next name started =>
    split at parsed
    · next valid =>
      cases parsed
      refine ⟨.inr ⟨_, rfl, valid⟩, ?_⟩
      rw [spell, String.toList_append, String.toList_ofList, afterStart_eq_some_iff.mp started]
    · cases parsed
  · have spelled : ∀ word, String.ofList token = word → word.toList = token :=
      fun word same => same ▸ String.toList_ofList
    split at parsed <;> cases parsed <;> exact ⟨.inl (by decide), spelled _ ‹_›⟩

theorem parseName_word (word : type ∈ words) : parseName type.spell.toList = .ok type := by
  simp only [words, List.mem_cons, List.not_mem_nil, or_false] at word
  rcases word with rfl | rfl | rfl | rfl | rfl | rfl <;> rfl

theorem parseName_enumeration {name : String} (valid : Elm.isTypeName name = true) :
    parseName (enumeration name).spell.toList = .ok (.enumeration name) := by
  have started : afterStart enumerationStart.toList (enumeration name).spell.toList =
      some name.toList := by
    rw [afterStart_eq_some_iff, spell, String.toList_append]
  rw [parseName, started]
  show (if Elm.isTypeName (String.ofList name.toList) = true then _ else _) = _
  rw [String.ofList_toList, if_pos valid]

theorem parseName_eq_error {error : SchemaError} (refused : parseName token = .error error) :
    error = refusal token := by
  unfold parseName at refused
  split at refused
  · next name started =>
    split at refused
    · cases refused
    · cases refused
      exact (refusal_of_afterStart started).symm
  · next other =>
    rw [refusal_of_not_afterStart other]
    split at refused <;> cases refused
    rfl

theorem spellable_of_word (word : type ∈ words) : type.Spellable declares := by
  simp only [words, List.mem_cons, List.not_mem_nil, or_false] at word
  rcases word with rfl | rfl | rfl | rfl | rfl | rfl <;> trivial

theorem parseBare_of_undeclared {spelling : String} (undeclared : declares spelling = false) :
    parseBare declares spelling.toList = parseName spelling.toList := by
  rw [parseBare, String.ofList_toList, undeclared]
  rfl

/-- **A text without brackets** has the type that it is the spelling of. -/
theorem parseBare_eq_ok_iff (names : PlainNames declares) (bare : Bare token) :
    parseBare declares token = .ok type ↔ type.Spellable declares ∧ type.spell.toList = token := by
  refine ⟨fun parsed => ?_, fun ⟨spellable, spelled⟩ => ?_⟩
  · by_cases declared : declares (String.ofList token) = true
    · rw [parseBare, if_pos declared] at parsed
      cases parsed
      exact ⟨declared, String.toList_ofList⟩
    · rw [parseBare, if_neg declared] at parsed
      obtain ⟨shape, spelled⟩ := parseName_eq_ok parsed
      refine ⟨?_, spelled⟩
      rcases shape with word | ⟨name, rfl, valid⟩
      · exact spellable_of_word word
      · rw [← spelled, String.ofList_toList] at declared
        exact ⟨valid, Bool.eq_false_iff.mpr declared⟩
  · subst spelled
    have parseWord : ∀ word ∈ words, parseBare declares word.spell.toList = .ok word :=
      fun word member =>
        (parseBare_of_undeclared (names.notWord word member)).trans (parseName_word member)
    cases type with
    | list element => exact absurd (toList_spell_of .list element) (bare.notEnclosed .list _)
    | dict element => exact absurd (toList_spell_of .dict element) (bare.notEnclosed .dict _)
    | record name =>
      have declared : declares name = true := spellable
      show parseBare declares name.toList = _
      rw [parseBare, String.ofList_toList, if_pos declared]
    | enumeration name =>
      exact (parseBare_of_undeclared spellable.2).trans (parseName_enumeration spellable.1)
    | bool | int | string | float | timestamp | value => exact parseWord _ (by decide)

theorem parseBare_eq_error {error : SchemaError}
    (refused : parseBare declares token = .error error) : error = refusal token := by
  unfold parseBare at refused
  split at refused
  · cases refused
  · exact parseName_eq_error refused

/-! ### All texts -/

/-- **The texts of a type** are its spelling with blank characters put in. -/
theorem parse_eq_ok_iff (names : PlainNames declares) {text : String} :
    parse declares text = .ok type ↔
      type.Spellable declares ∧ Padded type.spell.toList text.toList := by
  have each : ∀ type, parse declares text = .ok type ↔
      type.Spellable declares ∧ Padded type.spell.toList text.toList := by
    refine parseWithin_induction
      (motive := fun text outcome => ∀ type, outcome = .ok type ↔
        type.Spellable declares ∧ Padded type.spell.toList text)
      ?_ ?_ _ text.toList (Nat.lt_succ_self _)
    · intro container inner text outcome around ih type
      rw [map_eq_ok_iff]
      refine ⟨?_, fun ⟨spellable, padded⟩ => ?_⟩
      · intro ⟨element, parsed, same⟩
        obtain ⟨spellable, padded⟩ := (ih element).mp parsed
        rw [← same, toList_spell_of, spellable_of]
        exact ⟨spellable, .inside container padded around⟩
      · obtain ⟨element, rfl, within⟩ := (padded_enclosed_iff names spellable around).mp padded
        exact ⟨element,
          (ih element).mpr ⟨(spellable_of container element).mp spellable, within⟩, rfl⟩
    · intro token text around bare type
      rw [parseBare_eq_ok_iff names bare]
      exact and_congr_right fun spellable => (padded_bare_iff names spellable around bare).symm
  exact each type

/-- **The refusal of a text** is about what is left of it without its brackets. -/
theorem parse_eq_error {text : String} {error : SchemaError}
    (refused : parse declares text = .error error) :
    ∃ token, Innermost text.toList token ∧ error = refusal token := by
  have each : ∀ error, parse declares text = .error error →
      ∃ token, Innermost text.toList token ∧ error = refusal token := by
    refine parseWithin_induction
      (motive := fun text outcome => ∀ error, outcome = .error error →
        ∃ token, Innermost text token ∧ error = refusal token)
      ?_ ?_ _ text.toList (Nat.lt_succ_self _)
    · intro container inner text outcome around ih error refused
      obtain ⟨token, innermost, same⟩ := ih error (map_eq_error_iff.mp refused)
      exact ⟨token, .inside container around innermost, same⟩
    · intro token text around bare error refused
      exact ⟨token, .here around bare, parseBare_eq_error refused⟩
  exact each error refused

end Texts

end FieldType

/-! ### Schemas -/

namespace Schema

variable {name version : String} {declarations : OrderedMap String RecordDecl} {schema : Schema}
variable (built : Schema.build name version declarations = .ok schema)
include built

/-- The names of the records of a schema are plain, and none is a word. -/
theorem plainNames_of_build : FieldType.PlainNames schema.declares where
  plain record declared := Elm.plain_of_displayName (wellNamed_of_build built record declared)
  notWord word member := by
    have each : ∀ word ∈ FieldType.words, Elm.isTypeName (Elm.displayName word.spell) = false := by
      decide +kernel
    by_contra declared
    have valid := wellNamed_of_build built word.spell (by simpa using declared)
    rw [each word member] at valid
    cases valid

/-- **The texts that have a type** in a schema are the spellings of the types in scope, with blank
characters put at the ends and at the inner sides of brackets. Any other text is refused with the
one text that is left of it without brackets and blank ends: as a reference that leads nowhere if it
starts like an enumeration, as an unknown type otherwise. -/
theorem parseType_grammar :
    (∀ text type, schema.parseType text = .ok type ↔
        type.Spellable schema.declares ∧ FieldType.Padded type.spell.toList text.toList) ∧
      ∀ text error, schema.parseType text = .error error →
        ∃ token, FieldType.Innermost text.toList token ∧
          (∀ other, FieldType.Innermost text.toList other → other = token) ∧
          error = if "Enums.".toList <+: token then .unresolvedReference (String.ofList token)
            else .unknownType (String.ofList token) := by
  refine ⟨fun text type => FieldType.parse_eq_ok_iff (plainNames_of_build built), ?_⟩
  intro text error refused
  obtain ⟨token, innermost, same⟩ := FieldType.parse_eq_error refused
  exact ⟨token, innermost, fun other inside => inside.unique innermost, same⟩

end Schema

/-- In a schema with the record `Shelf` the text `[ {Shelf } ]` is read, with a line break behind
it, and of `[{ shelf}]` is left `shelf`, which is no type. -/
theorem Schema.shelf_grammar :
    ∃ schema, Schema.build "shelf" "1" (.ofList [("Shelf",
        { description := "", fields := .ofList [("books", ⟨"[string]", .required⟩)]
          breaksRecursion := false })]) = .ok schema ∧
      schema.parseType "[ \x7bShelf \x7d ]\n" = .ok (.list (.dict (.record "Shelf"))) ∧
      FieldType.Innermost "[\x7b shelf\x7d]".toList "shelf".toList ∧
      schema.parseType "[\x7b shelf\x7d]" = .error (.unknownType "shelf") := by
  obtain ⟨schema, built, declared, refused⟩ : ∃ schema, Schema.build "shelf" "1" (.ofList [("Shelf",
      { description := "", fields := .ofList [("books", ⟨"[string]", .required⟩)]
        breaksRecursion := false })]) = .ok schema ∧ schema.declares "Shelf" = true ∧
      schema.parseType "[\x7b shelf\x7d]" = .error (.unknownType "shelf") :=
    ⟨_, rfl, by decide, by rfl⟩
  obtain ⟨texts, refusals⟩ := parseType_grammar built
  have name : FieldType.Padded "Shelf".toList "Shelf ".toList := .ends ⟨[], [' '], rfl, rfl, rfl⟩
  have element : FieldType.Padded "\x7bShelf\x7d".toList " \x7bShelf \x7d ".toList :=
    name.inside .dict ⟨[' '], [' '], rfl, rfl, rfl⟩
  have padded : FieldType.Padded "[\x7bShelf\x7d]".toList "[ \x7bShelf \x7d ]\n".toList :=
    element.inside .list ⟨[], ['\n'], rfl, rfl, rfl⟩
  have word : FieldType.Innermost " shelf".toList "shelf".toList :=
    .here ⟨[' '], [], rfl, rfl, rfl⟩ (FieldType.plain_of_letters (by decide)).bare
  have innermost : FieldType.Innermost "[\x7b shelf\x7d]".toList "shelf".toList :=
    .inside .list ⟨[], [], rfl, rfl, rfl⟩ (.inside .dict ⟨[], [], rfl, rfl, rfl⟩ word)
  refine ⟨schema, built, (texts _ _).mpr ⟨declared, padded⟩, innermost, ?_⟩
  obtain ⟨token, _, unique, same⟩ := refusals _ _ refused
  rw [refused, same, ← unique _ innermost]

end ElmCodec
