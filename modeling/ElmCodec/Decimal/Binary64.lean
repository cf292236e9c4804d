/-
**Binary floating-point numbers of 64 bits, and rounding to them.**

A finite number of the format is `significand * 2 ^ exponent` with a significand below `2 ^ 53` and
an exponent from `-1074` on; below `2 ^ 52` the significand belongs to the least exponent. A
positive fraction is rounded to the nearest number, and half-way to the one with an even
significand.

* `roundFraction` — the number nearest to a fraction, unless it is beyond the greatest one.
* `ofDecimal` — the number nearest to `digits * 10 ^ exponent`.
-/

namespace ElmCodec.Decimal

/-- The size of a finite number of the format. -/
structure Binary64 where
  significand : Nat
  exponent : Int
  deriving DecidableEq, Repr

namespace Binary64

/-- The least exponent. -/
def leastExponent : Int := -1074

/-- The greatest exponent. -/
def greatestExponent : Int := 971

/-- Zero. -/
def zero : Binary64 := ⟨0, leastExponent⟩

end Binary64

/-- A positive fraction. -/
structure Fraction where
  numerator : Nat
  denominator : Nat
  deriving DecidableEq, Repr

namespace Fraction

/-- The fraction times a power of a base. -/
def scale (fraction : Fraction) (base : Nat) (exponent : Int) : Fraction :=
  if exponent ≥ 0 then
    { fraction with numerator := fraction.numerator * Nat.pow base exponent.toNat }
  else { fraction with denominator := fraction.denominator * Nat.pow base (-exponent).toNat }

/-- The greatest whole number that is not above the fraction. -/
def floor (fraction : Fraction) : Nat := fraction.numerator / fraction.denominator

/-- The nearest whole number; half-way, the even one. -/
def roundEven (fraction : Fraction) : Nat :=
  let whole := fraction.floor
  let twice := 2 * (fraction.numerator % fraction.denominator)
  if twice > fraction.denominator || (twice == fraction.denominator && whole % 2 == 1) then
    whole + 1
  else whole

/-- Whether the fraction is below another one. -/
def below (first second : Fraction) : Bool :=
  first.numerator * second.denominator < second.numerator * first.denominator

end Fraction

/-- The number nearest to a positive fraction. The exponent that makes a significand of 53 bits is
the difference of the bit lengths, or one less. -/
def roundFraction (fraction : Fraction) : Option Binary64 :=
  let estimate : Int :=
    (fraction.numerator.log2 : Int) - fraction.denominator.log2 - 52
  let exponent :=
    if (fraction.scale 2 (-estimate)).floor < Nat.pow 2 52 then estimate - 1 else estimate
  let exponent := max exponent Binary64.leastExponent
  let significand := (fraction.scale 2 (-exponent)).roundEven
  let result : Binary64 :=
    if significand = Nat.pow 2 53 then ⟨Nat.pow 2 52, exponent + 1⟩ else ⟨significand, exponent⟩
  if result.exponent > Binary64.greatestExponent then none else some result

/-- The number of decimal digits of a number. -/
def digitCount (n : Nat) : Nat := (Nat.toDigits 10 n).length

/-- The number nearest to `digits * 10 ^ exponent`. Beyond `10 ^ 310` there is none, and below
`10 ^ -330` it is zero, so no greater power has to be computed. -/
def ofDecimal (digits : Nat) (exponent : Int) : Option Binary64 :=
  if digits = 0 then some .zero
  else
    let magnitude := exponent + digitCount digits
    if magnitude > 310 then none
    else if magnitude < -330 then some .zero
    else roundFraction (Fraction.scale ⟨digits, 1⟩ 10 exponent)

end ElmCodec.Decimal
