/-!
# Double-precision numbers

A number of the documents is a double: a finite value `± mantissa · 2 ^ exponent`,
an infinity, or not a number.  A finite nonzero value has 53 binary digits in its
mantissa unless the exponent is the least one, so that equal values have equal
parts, the two zeros apart.

`Double.ofDecimal` rounds `significand · 10 ^ scale` to the nearest double in
exact arithmetic; a tie goes to the even mantissa.
-/

namespace Compliance.Decimal

/-- A double, by its parts. -/
inductive Double where
  | finite (negative : Bool) (mantissa : Nat) (exponent : Int)
  | infinite (negative : Bool)
  | notANumber
deriving Repr, DecidableEq, Inhabited

/-- The least exponent of a double. -/
def leastExponent : Int := -1074

/-- The greatest exponent of a double. -/
def greatestExponent : Int := 971

/-- The mantissas with full precision lie between this and its double. -/
def fullMantissa : Nat := Nat.pow 2 52

/-- `numerator / denominator` rounded to the nearest integer, a tie to the even one. -/
def roundHalfEven (numerator denominator : Nat) : Nat :=
  let quotient := numerator / denominator
  let remainder := numerator % denominator
  if denominator < 2 * remainder then quotient + 1
  else if 2 * remainder = denominator && quotient % 2 = 1 then quotient + 1
  else quotient

/-- The ratio `numerator / denominator` divided by `2 ^ exponent`, as a ratio. -/
def scaleDown (numerator denominator : Nat) (exponent : Int) : Nat × Nat :=
  if 0 ≤ exponent then (numerator, denominator * Nat.pow 2 exponent.toNat)
  else (numerator * Nat.pow 2 (-exponent).toNat, denominator)

/-- The exponent that gives the positive ratio a mantissa with 53 binary digits, or the least
exponent where that would be smaller. -/
def exponentFor (numerator denominator : Nat) : Int :=
  let guess : Int := (numerator.log2 : Int) - denominator.log2 - 52
  let (top, bottom) := scaleDown numerator denominator guess
  let fitted :=
    if 2 * fullMantissa ≤ top / bottom then guess + 1
    else if top / bottom < fullMantissa then guess - 1
    else guess
  max fitted leastExponent

namespace Double

/-- The double nearest to a positive ratio. -/
def ofRatio (negative : Bool) (numerator denominator : Nat) : Double :=
  let exponent := exponentFor numerator denominator
  let (top, bottom) := scaleDown numerator denominator exponent
  let rounded := roundHalfEven top bottom
  let (mantissa, exponent) :=
    if rounded = 2 * fullMantissa then (fullMantissa, exponent + 1) else (rounded, exponent)
  if greatestExponent < exponent then infinite negative
  else finite negative mantissa exponent

/-- The number of decimal digits of a number; zero has none. -/
def digitCount (number : Nat) : Nat := if number = 0 then 0 else (Nat.toDigits 10 number).length

/-- The double nearest to `± significand · 10 ^ scale`.  Values beyond the range of doubles are
told by the place of their first digit, so that no large power is computed for them. -/
def ofDecimal (negative : Bool) (significand : Nat) (scale : Int) : Double :=
  let place : Int := scale + digitCount significand
  if significand = 0 || place < -400 then finite negative 0 leastExponent
  else if 400 < place then infinite negative
  else if 0 ≤ scale then ofRatio negative (significand * Nat.pow 10 scale.toNat) 1
  else ofRatio negative significand (Nat.pow 10 (-scale).toNat)

/-- Whether the value is zero, of either sign. -/
def isZero : Double → Bool
  | finite _ 0 _ => true
  | _ => false

/-- Equality of values: the two zeros are equal, and so is what is not a number to itself. -/
def same (first second : Double) : Bool :=
  (first.isZero && second.isZero) || first = second

end Double

end Compliance.Decimal
