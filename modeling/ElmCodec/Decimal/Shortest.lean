/-
**The shortest decimal that reads back as a given binary number.**

All reals of an interval round to one binary number. Of the decimals in the interval, the one with
the fewest digits is wanted, and of those the one nearest to the number; half-way, the one with the
even last digit. For each count of digits the two decimals next to the number are tried.

* `shortest` — its digits and the exponent of the last one.
-/

import ElmCodec.Decimal.Binary64

namespace ElmCodec.Decimal

/-- The value of a positive number. -/
def Binary64.value (number : Binary64) : Fraction :=
  Fraction.scale ⟨number.significand, 1⟩ 2 number.exponent

/-- The lower end of the reals that round to a number. The gap below a power of two is half as wide
as the one above it. -/
def Binary64.lowerEnd (number : Binary64) : Fraction :=
  if number.significand = Nat.pow 2 52 ∧ number.exponent > leastExponent then
    Fraction.scale ⟨4 * number.significand - 1, 4⟩ 2 number.exponent
  else Fraction.scale ⟨2 * number.significand - 1, 2⟩ 2 number.exponent

/-- The upper end of the reals that round to a number. -/
def Binary64.upperEnd (number : Binary64) : Fraction :=
  Fraction.scale ⟨2 * number.significand + 1, 2⟩ 2 number.exponent

/-- Whether a real rounds to a number. The ends do when the significand is even. -/
def Binary64.attracts (number : Binary64) (real : Fraction) : Bool :=
  if number.significand % 2 = 0 then
    !real.below number.lowerEnd && !number.upperEnd.below real
  else number.lowerEnd.below real && real.below number.upperEnd

/-- The exponent of ten of the first digit of a positive fraction. -/
def leadingExponent (fraction : Fraction) : Int :=
  let estimate : Int := (digitCount fraction.numerator : Int) - digitCount fraction.denominator
  if fraction.below (Fraction.scale ⟨1, 1⟩ 10 estimate) then estimate - 1 else estimate

/-- A decimal of the given exponent next to a number that rounds to it, the nearer one if both
do. -/
def neighbour? (number : Binary64) (exponent : Int) : Option Nat :=
  let scaled := number.value.scale 10 (-exponent)
  let lower := scaled.floor
  let rounds (digits : Nat) : Bool := number.attracts (Fraction.scale ⟨digits, 1⟩ 10 exponent)
  match rounds lower, rounds (lower + 1) with
  | true, true => some scaled.roundEven
  | true, false => some lower
  | false, true => some (lower + 1)
  | false, false => none

/-- The first decimal that rounds to a number, from `count` digits on. -/
def shortestFrom (number : Binary64) (leading : Int) : Nat → Nat → Nat × Int
  | 0, _ => (number.significand, 0)
  | fuel + 1, count =>
    let exponent := leading + 1 - count
    match neighbour? number exponent with
    | some digits => (digits, exponent)
    | none => shortestFrom number leading fuel (count + 1)

/-- The shortest decimal that rounds to a positive number: its digits and the exponent of the last
one. Seventeen digits are always enough. -/
def shortest (number : Binary64) : Nat × Int :=
  shortestFrom number (leadingExponent number.value) 17 1

end ElmCodec.Decimal
