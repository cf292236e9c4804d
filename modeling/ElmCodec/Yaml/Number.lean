/-
**Numbers in YAML.**

A scalar without quotes is a number if it is written as one: a whole number in base ten, sixteen,
eight or two, or a decimal fraction. Digits after a leading zero are text. A number is written back
in one way: whole numbers in base ten, all others with the fewest digits that read back, with a
point or an exponent.

* `Number.parse?` — the number of a text.
* `Number.render` — the text of a number.
-/

import ElmCodec.Decimal.Shortest

namespace ElmCodec.Yaml

open ElmCodec.Decimal

/-- A number. Zero and the fractions have a sign of their own. -/
inductive Number where
  | whole (value : Int)
  | fraction (negative : Bool) (size : Binary64)
  | infinity (negative : Bool)
  | notANumber
  deriving DecidableEq, Repr

/-! ### Whole numbers -/

/-- The value of a digit in some base up to sixteen. -/
def digitValue? (c : Char) : Option Nat :=
  if c.isDigit then some (c.toNat - '0'.toNat)
  else if 'a' ≤ c && c ≤ 'f' then some (c.toNat - 'a'.toNat + 10)
  else if 'A' ≤ c && c ≤ 'F' then some (c.toNat - 'A'.toNat + 10)
  else none

/-- The number that digits of a base continue. -/
def digitsFrom? (base value : Nat) : List Char → Option Nat
  | [] => some value
  | c :: rest =>
    match digitValue? c with
    | some digit => if digit < base then digitsFrom? base (value * base + digit) rest else none
    | none => none

/-- The number written by digits of a base, of which there is at least one. -/
def digits? (base : Nat) (cs : List Char) : Option Nat :=
  if cs.isEmpty then none else digitsFrom? base 0 cs

/-- The size of a whole number without its sign. -/
def wholeSize? : List Char → Option Nat
  | '0' :: 'x' :: rest => digits? 16 rest
  | '0' :: 'o' :: rest => digits? 8 rest
  | '0' :: 'b' :: rest => digits? 2 rest
  | cs => digits? 10 cs

/-- Whether a text is several digits the first of which is zero, after a sign if there is one. -/
def isZeroPadded (cs : List Char) : Bool :=
  let unsigned := match cs with
    | '-' :: rest | '+' :: rest => rest
    | _ => cs
  match unsigned with
  | '0' :: next :: rest => (next :: rest).all Char.isDigit
  | _ => false

/-- The whole number of a text. -/
def wholeNumber? (cs : List Char) : Option Int :=
  if isZeroPadded cs then none
  else
    match cs with
    | '-' :: rest => (wholeSize? rest).map fun size => -(size : Int)
    | '+' :: rest => (wholeSize? rest).map Int.ofNat
    | _ => (wholeSize? cs).map Int.ofNat

/-- Whether a whole number can be kept: 64 bits hold it, unsigned or with a sign. -/
def isKept (value : Int) : Bool :=
  -(Nat.pow 2 63 : Nat) ≤ value && value < (Nat.pow 2 64 : Nat)

/-- Whether a whole number is recognised as one: 128 bits hold it. -/
def isRecognised (value : Int) : Bool :=
  -(Nat.pow 2 127 : Nat) ≤ value && value < (Nat.pow 2 128 : Nat)

/-! ### Decimal fractions -/

/-- An exponent behind its letter. -/
def exponent? (cs : List Char) : Option Int :=
  match cs with
  | '-' :: rest => (digits? 10 rest).map fun size => -(size : Int)
  | '+' :: rest => (digits? 10 rest).map Int.ofNat
  | _ => (digits? 10 cs).map Int.ofNat

/-- Digits with at most one point among them, and an exponent: the digits as a number and the
exponent of the last one. -/
def decimal? (cs : List Char) : Option (Nat × Int) := do
  let (whole, behind) := (cs.takeWhile Char.isDigit, cs.dropWhile Char.isDigit)
  let (part, rest) := match behind with
    | '.' :: after => (after.takeWhile Char.isDigit, after.dropWhile Char.isDigit)
    | _ => ([], behind)
  let digits ← digits? 10 (whole ++ part)
  let exponent ← match rest with
    | [] => some 0
    | 'e' :: after | 'E' :: after => exponent? after
    | _ => none
  return (digits, exponent - part.length)

/-- The fraction of a text without the sign of infinity or of a plus. -/
def signedDecimal? (cs : List Char) : Option Number := do
  let (negative, unsigned) := match cs with
    | '-' :: rest => (true, rest)
    | _ => (false, cs)
  let (digits, exponent) ← decimal? unsigned
  return .fraction negative (← ofDecimal digits exponent)

/-- The fraction of a text. -/
def fraction? (cs : List Char) : Option Number :=
  let text := String.ofList cs
  if text ∈ [".inf", ".Inf", ".INF", "+.inf", "+.Inf", "+.INF"] then some (.infinity false)
  else if text ∈ ["-.inf", "-.Inf", "-.INF"] then some (.infinity true)
  else if text ∈ [".nan", ".NaN", ".NAN"] then some .notANumber
  else
    match cs with
    | '+' :: rest => if rest.head? == some '-' then none else signedDecimal? rest
    | _ => signedDecimal? cs

/-! ### Written back -/

namespace Number

/-- The digits of a decimal, and the exponent of the last one, as a text. The point stands among
the digits if that takes at most sixteen places in front of it, or four zeros behind it. -/
def layOut (digits : List Char) (exponent : Int) : List Char :=
  let count : Int := digits.length
  let places := count + exponent
  if exponent ≥ 0 ∧ places ≤ 16 then
    digits ++ List.replicate exponent.toNat '0' ++ ['.', '0']
  else if places > 0 ∧ places ≤ 16 then
    digits.take places.toNat ++ '.' :: digits.drop places.toNat
  else if places > -5 ∧ places ≤ 0 then
    '0' :: '.' :: List.replicate (-places).toNat '0' ++ digits
  else
    let fractional := if digits.length = 1 then [] else '.' :: digits.drop 1
    digits.take 1 ++ fractional ++ 'e' :: (toString (places - 1)).toList

/-- Drops the zeros at the end of a number of digits, and counts them in its exponent. -/
def dropZeros : Nat → Nat → Int → Nat × Int
  | 0, digits, exponent => (digits, exponent)
  | fuel + 1, digits, exponent =>
    if digits % 10 = 0 then dropZeros fuel (digits / 10) (exponent + 1) else (digits, exponent)

/-- The text of the size of a fraction. -/
def renderSize (size : Binary64) : String :=
  if size.significand = 0 then "0.0"
  else
    let (digits, exponent) := shortest size
    let (digits, exponent) := dropZeros 17 digits exponent
    String.ofList (layOut (Nat.toDigits 10 digits) exponent)

/-- The text of a number. -/
def render : Number → String
  | whole value => toString value
  | fraction negative size => (if negative then "-" else "") ++ renderSize size
  | infinity negative => if negative then "-.inf" else ".inf"
  | notANumber => ".nan"

/-- Whether two numbers count as one key: a number that is none equals itself, and the zeros are
equal. -/
def sameKey (first second : Number) : Bool :=
  match first, second with
  | fraction left size, fraction right other =>
    size == other && (left == right || size.significand == 0)
  | _, _ => first == second

end Number

end ElmCodec.Yaml
