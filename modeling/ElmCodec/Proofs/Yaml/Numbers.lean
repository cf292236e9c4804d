/-
**Which numbers are written as Elm reads them.**

A number of a document is written back in one way: a whole number in base ten, a fraction with a
point or an exponent. Both are numbers in Elm. The infinities and what is no number are words with a
point in front, and Elm has no such numbers.

* `Elm.IsNumber` — **the numbers of Elm**: digits, behind a minus or not, with a fraction or not and
  with an exponent or not.
* `Number.isUnsigned_layOut` — digits laid out around a point or before an exponent are one.
* `Number.isNumber_render_iff` — **a number is written as one of Elm** exactly when it is finite.
-/

import Mathlib.Data.List.Basic
import ElmCodec.Yaml.Number

namespace ElmCodec

/-! ### The numbers of Elm -/

namespace Elm

/-- Digits in base ten, at least one. -/
structure IsDigits (cs : List Char) : Prop where
  inhabited : cs ≠ []
  digits : ∀ c ∈ cs, c.isDigit = true

/-- A point with digits behind it, or nothing. -/
inductive IsFraction : List Char → Prop where
  | none : IsFraction []
  | point {cs : List Char} : IsDigits cs → IsFraction ('.' :: cs)

/-- A power of ten, or nothing. -/
inductive IsExponent : List Char → Prop where
  | none : IsExponent []
  | positive {cs : List Char} : IsDigits cs → IsExponent ('e' :: cs)
  | negative {cs : List Char} : IsDigits cs → IsExponent ('e' :: '-' :: cs)

/-- A number without a sign. -/
inductive IsUnsigned : List Char → Prop where
  | parts {whole fraction exponent : List Char} : IsDigits whole → IsFraction fraction →
      IsExponent exponent → IsUnsigned (whole ++ fraction ++ exponent)

/-- **A number of Elm.** -/
inductive IsNumber : List Char → Prop where
  | positive {cs : List Char} : IsUnsigned cs → IsNumber cs
  | negative {cs : List Char} : IsUnsigned cs → IsNumber ('-' :: cs)

theorem IsDigits.append {first second : List Char} (start : IsDigits first)
    (digits : ∀ c ∈ second, c.isDigit = true) : IsDigits (first ++ second) where
  inhabited := List.append_ne_nil_of_left_ne_nil start.inhabited second
  digits := List.forall_mem_append.mpr ⟨start.digits, digits⟩

theorem isDigits_toDigits (n : Nat) : IsDigits (Nat.toDigits 10 n) where
  inhabited := Nat.toDigits_ne_nil
  digits _ member := Nat.isDigit_of_mem_toDigits (by decide) (by decide) member

/-- A whole number is digits, behind a minus if it is negative. -/
theorem toString_cases (value : Int) :
    ∃ digits, IsDigits digits ∧
      ((toString value).toList = digits ∨ (toString value).toList = '-' :: digits) := by
  cases value with
  | ofNat n =>
    refine ⟨_, isDigits_toDigits n, .inl ?_⟩
    show (toString n).toList = _
    rw [Nat.toString_eq_ofList_toDigits, String.toList_ofList]
  | negSucc n =>
    refine ⟨_, isDigits_toDigits (n + 1), .inr ?_⟩
    show ("-" ++ toString (n + 1)).toList = _
    rw [String.toList_append, Nat.toString_eq_ofList_toDigits]
    exact congrArg ('-' :: ·) String.toList_ofList

/-- Digits are a number. -/
theorem IsDigits.isUnsigned {cs : List Char} (digits : IsDigits cs) : IsUnsigned cs := by
  have parts := IsUnsigned.parts digits .none .none
  rwa [List.append_nil, List.append_nil] at parts

theorem isNumber_toString (value : Int) : IsNumber (toString value).toList := by
  obtain ⟨digits, valid, same | same⟩ := toString_cases value
  · rw [same]
    exact .positive valid.isUnsigned
  · rw [same]
    exact .negative valid.isUnsigned

theorem isExponent_toString (value : Int) : IsExponent ('e' :: (toString value).toList) := by
  obtain ⟨digits, valid, same | same⟩ := toString_cases value
  · rw [same]
    exact .positive valid
  · rw [same]
    exact .negative valid

/-- A number without a sign starts with a digit. -/
theorem IsUnsigned.head {c : Char} {cs : List Char} (number : IsUnsigned (c :: cs)) :
    c.isDigit = true := by
  generalize whole : c :: cs = text at number
  obtain ⟨digits, _, _⟩ := number
  obtain ⟨first, rest, rfl⟩ := List.exists_cons_of_ne_nil digits.inhabited
  obtain ⟨rfl, _⟩ := List.cons.inj whole
  exact digits.digits c List.mem_cons_self

/-- No number holds a space. -/
theorem IsNumber.not_mem_space {cs : List Char} (number : IsNumber cs) : ' ' ∉ cs := by
  have ofDigits {cs : List Char} (digits : IsDigits cs) : ' ' ∉ cs := fun member =>
    absurd (digits.digits ' ' member) (by decide)
  have ofUnsigned {cs : List Char} (number : IsUnsigned cs) : ' ' ∉ cs := by
    obtain ⟨whole, fraction, exponent⟩ := number
    rw [List.mem_append, List.mem_append, not_or, not_or]
    refine ⟨⟨ofDigits whole, ?_⟩, ?_⟩
    · cases fraction with
      | none => exact List.not_mem_nil
      | point digits => exact List.not_mem_cons_of_ne_of_not_mem (by decide) (ofDigits digits)
    · cases exponent with
      | none => exact List.not_mem_nil
      | positive digits => exact List.not_mem_cons_of_ne_of_not_mem (by decide) (ofDigits digits)
      | negative digits =>
        exact List.not_mem_cons_of_ne_of_not_mem (by decide)
          (List.not_mem_cons_of_ne_of_not_mem (by decide) (ofDigits digits))
  cases number with
  | positive number => exact ofUnsigned number
  | negative number => exact List.not_mem_cons_of_ne_of_not_mem (by decide) (ofUnsigned number)

end Elm

/-! ### The numbers of a document -/

namespace Yaml.Number

open Elm

/-- **Digits laid out** around a point or before an exponent are a number. -/
theorem isUnsigned_layOut {digits : List Char} (valid : IsDigits digits) (exponent : Int) :
    IsUnsigned (layOut digits exponent) := by
  have some := List.length_pos_of_ne_nil valid.inhabited
  have zeros (count : Nat) : ∀ c ∈ List.replicate count '0', c.isDigit = true := by
    intro c member
    rw [List.eq_of_mem_replicate member]
    rfl
  have zero : IsDigits ['0'] := ⟨List.cons_ne_nil _ _, List.forall_mem_singleton.mpr rfl⟩
  have taken {count : Nat} (positive : 0 < count) : IsDigits (digits.take count) :=
    ⟨fun empty => by
      have length := congrArg List.length empty
      rw [List.length_take, List.length_nil] at length
      omega, fun c member => valid.digits c (List.mem_of_mem_take member)⟩
  have dropped {count : Nat} (less : count < digits.length) : IsDigits (digits.drop count) :=
    ⟨fun empty => absurd (List.drop_eq_nil_iff.mp empty) (by omega),
      fun c member => valid.digits c (List.mem_of_mem_drop member)⟩
  unfold layOut
  dsimp only
  split
  · -- The digits end before the point.
    have parts := IsUnsigned.parts (valid.append (zeros exponent.toNat)) (.point zero) .none
    rwa [List.append_nil] at parts
  · next notWhole =>
    split
    · -- The point is among the digits.
      next among =>
      have before : 0 < ((digits.length : Int) + exponent).toNat := by omega
      have behind : ((digits.length : Int) + exponent).toNat < digits.length := by omega
      have parts := IsUnsigned.parts (taken before) (.point (dropped behind)) .none
      rwa [List.append_nil] at parts
    · split
      · -- The digits start behind the point.
        next behind =>
        have parts := IsUnsigned.parts zero (.point (IsDigits.mk
          (List.append_ne_nil_of_right_ne_nil _ valid.inhabited)
          (List.forall_mem_append.mpr
            ⟨zeros (-((digits.length : Int) + exponent)).toNat, valid.digits⟩))) .none
        rwa [List.append_nil] at parts
      · -- There is an exponent, and a point if there is more than one digit.
        refine .parts (taken Nat.one_pos) ?_ (isExponent_toString _)
        split
        · exact .none
        · exact .point (dropped (by omega))

/-- The size of a fraction is written as a number. -/
theorem isUnsigned_renderSize (size : Decimal.Binary64) : IsUnsigned (renderSize size).toList := by
  unfold renderSize
  split
  · exact isUnsigned_layOut (isDigits_toDigits 0) 0
  · rw [String.toList_ofList]
    exact isUnsigned_layOut (isDigits_toDigits _) _

/-- A number that is neither infinite nor none. -/
def IsFinite : Number → Prop
  | whole _ | fraction _ _ => True
  | infinity _ | notANumber => False

/-- **A number is written as a number of Elm** exactly when it is finite. -/
theorem isNumber_render_iff (number : Number) :
    IsNumber number.render.toList ↔ number.IsFinite := by
  have noPoint {cs : List Char} : ¬IsUnsigned ('.' :: cs) := fun number =>
    absurd number.head (by decide)
  cases number with
  | whole value => exact ⟨fun _ => trivial, fun _ => isNumber_toString value⟩
  | fraction negative size =>
    refine ⟨fun _ => trivial, fun _ => ?_⟩
    cases negative with
    | false =>
      rw [render, if_neg Bool.false_ne_true, String.empty_append]
      exact .positive (isUnsigned_renderSize size)
    | true =>
      rw [render, if_pos rfl, String.toList_append]
      exact .negative (isUnsigned_renderSize size)
  | infinity negative =>
    refine ⟨fun number => ?_, False.elim⟩
    cases negative with
    | false =>
      change IsNumber ['.', 'i', 'n', 'f'] at number
      cases number with
      | positive number => exact noPoint number
    | true =>
      change IsNumber ['-', '.', 'i', 'n', 'f'] at number
      cases number with
      | positive number => exact absurd number.head (by decide)
      | negative number => exact noPoint number
  | notANumber =>
    refine ⟨fun number => ?_, False.elim⟩
    change IsNumber ['.', 'n', 'a', 'n'] at number
    cases number with
    | positive number => exact noPoint number

/-- No number is written with a space. -/
theorem not_mem_space_render (number : Number) : ' ' ∉ number.render.toList := by
  cases number with
  | whole value => exact ((isNumber_render_iff (whole value)).mpr trivial).not_mem_space
  | fraction negative size =>
    exact ((isNumber_render_iff (fraction negative size)).mpr trivial).not_mem_space
  | infinity negative => cases negative <;> decide
  | notANumber => decide

end Yaml.Number

end ElmCodec
