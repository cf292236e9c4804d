/-
**Blank characters outside parentheses.**

An application ends an argument at a blank character, unless the character stands in parentheses. A
text that becomes an argument gets parentheses around it when it has a space; a tab and a line end
are blank too, and a text that has no space keeps them as they stand.

* `Balanced` — every parenthesis of a text has its partner.
* `HasOuterBlank` — a blank character stands outside all parentheses.
* `hasOuterBlank_argument_iff` — **what still has such a character as an argument**: a text with one
  and without any space.
-/

import Mathlib.Data.List.Infix
import ElmCodec.Elm.Expression
import ElmCodec.Text.Blank

namespace ElmCodec.Elm

/-- A text in which every parenthesis has its partner. -/
structure Balanced (cs : List Char) : Prop where
  /-- None is closed that was not opened before. -/
  opened : ∀ front, front <+: cs → front.count ')' ≤ front.count '('
  /-- In the end none is open. -/
  closed : cs.count ')' = cs.count '('

theorem balanced_iff_inits {cs : List Char} :
    (∀ front ∈ cs.inits, front.count ')' ≤ front.count '(') ∧ cs.count ')' = cs.count '(' ↔
      Balanced cs := by
  simp only [List.mem_inits]
  exact ⟨fun both => ⟨both.1, both.2⟩, fun balanced => ⟨balanced.opened, balanced.closed⟩⟩

instance (cs : List Char) : Decidable (Balanced cs) := decidable_of_iff _ balanced_iff_inits

/-- A blank character stands outside all parentheses: before it, all that were opened are closed. -/
def HasOuterBlank (cs : List Char) : Prop :=
  ∃ front c back, cs = front ++ c :: back ∧ Text.isBlank c = true ∧
    front.count ')' = front.count '('

variable {cs : List Char}

/-- What starts a text in parentheses: nothing, the first of them and a start of the text, or
all. -/
theorem prefix_parenthesized {front : List Char} (starts : front <+: '(' :: (cs ++ [')'])) :
    front = [] ∨ (∃ inner, inner <+: cs ∧ front = '(' :: inner) ∨
      front = '(' :: (cs ++ [')']) := by
  rcases List.prefix_cons_iff.mp starts with empty | ⟨inner, rfl, inside⟩
  · exact .inl empty
  · rcases List.prefix_concat_iff.mp inside with all | inside
    · exact .inr (.inr (congrArg ('(' :: ·) all))
    · exact .inr (.inl ⟨inner, inside, rfl⟩)

namespace Balanced

variable (balanced : Balanced cs)
include balanced

/-- A pair of parentheses around a text leaves it balanced. -/
theorem parenthesized : Balanced ('(' :: (cs ++ [')'])) where
  opened front starts := by
    have settled := balanced.closed
    rcases prefix_parenthesized starts with rfl | ⟨inner, inside, rfl⟩ | rfl
    · exact Nat.le_refl 0
    · have inner := balanced.opened inner inside
      simp only [List.count_cons, beq_iff_eq, Char.reduceEq, if_false, if_true]
      omega
    · simp only [List.count_cons, List.count_append, List.count_nil, beq_iff_eq, Char.reduceEq,
        if_false, if_true]
      omega
  closed := by
    have settled := balanced.closed
    simp only [List.count_cons, List.count_append, List.count_nil, beq_iff_eq, Char.reduceEq,
      if_false, if_true]
    omega

/-- **In parentheses** no blank character stands outside. -/
theorem not_hasOuterBlank_parenthesized : ¬HasOuterBlank ('(' :: (cs ++ [')'])) := by
  rintro ⟨front, c, back, whole, blank, settled⟩
  have starts : front <+: '(' :: (cs ++ [')']) := ⟨c :: back, whole.symm⟩
  rcases prefix_parenthesized starts with rfl | ⟨inner, inside, rfl⟩ | rfl
  · -- The first character is the parenthesis, which is not blank.
    obtain ⟨rfl, _⟩ := List.cons.inj whole
    cases blank
  · -- The first parenthesis is still open.
    have inner := balanced.opened inner inside
    simp only [List.count_cons, beq_iff_eq, Char.reduceEq, if_false, if_true] at settled
    omega
  · -- Nothing is left behind the last parenthesis.
    have length := congrArg List.length whole
    rw [List.length_append, List.length_cons (a := c)] at length
    omega

end Balanced

/-- An argument is the text, in parentheses if it has a space. -/
theorem argument_cases (text : String) :
    (' ' ∈ text.toList ∧ (argument text).toList = '(' :: (text.toList ++ [')'])) ∨
      (' ' ∉ text.toList ∧ argument text = text) := by
  unfold argument
  split
  · next spaced =>
    refine .inl ⟨spaced, ?_⟩
    rw [String.toList_append, String.toList_append]
    rfl
  · next unspaced => exact .inr ⟨unspaced, rfl⟩

variable {text : String} (balanced : Balanced text.toList)
include balanced

theorem balanced_argument : Balanced (argument text).toList := by
  rcases argument_cases text with ⟨_, parenthesized⟩ | ⟨_, same⟩
  · rw [parenthesized]
    exact balanced.parenthesized
  · rwa [same]

/-- **A blank character stays outside** of an argument exactly when it stands outside in the text
and the text has no space. -/
theorem hasOuterBlank_argument_iff :
    HasOuterBlank (argument text).toList ↔ HasOuterBlank text.toList ∧ ' ' ∉ text.toList := by
  rcases argument_cases text with ⟨spaced, parenthesized⟩ | ⟨unspaced, same⟩
  · rw [parenthesized]
    exact ⟨fun outer => absurd outer balanced.not_hasOuterBlank_parenthesized,
      fun both => absurd spaced both.2⟩
  · rw [same]
    exact ⟨fun outer => ⟨outer, unspaced⟩, And.left⟩

end ElmCodec.Elm
