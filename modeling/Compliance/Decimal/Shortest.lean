import Compliance.Decimal.Double

/-!
# The shortest decimal text of a double

A double is written with the fewest digits that read back as the same double;
of two such decimals the nearer one, and on a tie the one whose last digit is
even.  The decimals that read back form an interval around the value, with its
ends exactly when the mantissa is even.  On the grid of the multiples of a power
of ten it is enough to look at the value's two neighbours: if a point of the grid
lies in the interval, so does one of them.

The layout is positional from `0.00001` up to below `1e16`, with at least one
digit after the point, and scientific outside.
-/

namespace Compliance.Decimal

/-- A decimal `digits · 10 ^ scale`. -/
structure Scaled where
  digits : Nat
  scale : Int
deriving Repr, DecidableEq

/-- The interval of the reals that round to a double, over a common denominator: the value, half
the gap above it and half the gap below it. -/
structure Interval where
  value : Nat
  above : Nat
  below : Nat
  denominator : Nat
  closed : Bool

/-- The interval of the positive double `mantissa · 2 ^ exponent`.  The gap below the least
mantissa with full precision is half the gap above it. -/
def Interval.ofParts (mantissa : Nat) (exponent : Int) : Interval :=
  let narrow := mantissa = fullMantissa && leastExponent < exponent
  let unit := if 0 ≤ exponent then Nat.pow 2 exponent.toNat else 1
  { value := 4 * mantissa * unit
    above := 2 * unit
    below := if narrow then unit else 2 * unit
    denominator := 4 * (if 0 ≤ exponent then 1 else Nat.pow 2 (-exponent).toNat)
    closed := mantissa % 2 = 0 }

/-- The point `digits · 10 ^ scale` over the denominator of the interval, and the interval with it
brought to a common denominator. -/
def Interval.holds (interval : Interval) (digits : Nat) (scale : Int) : Bool :=
  let up := if 0 ≤ scale then Nat.pow 10 scale.toNat else 1
  let down := if 0 ≤ scale then 1 else Nat.pow 10 (-scale).toNat
  let point := digits * up * interval.denominator
  let low := (interval.value - interval.below) * down
  let high := (interval.value + interval.above) * down
  if interval.closed then low ≤ point && point ≤ high else low < point && point < high

/-- The neighbour below the value on the grid of `10 ^ scale`, with the rest of the value and the
length of the grid's step, both over one denominator. -/
def Interval.floor (interval : Interval) (scale : Int) : Nat × Nat × Nat :=
  let step :=
    interval.denominator * (if 0 ≤ scale then Nat.pow 10 scale.toNat else 1)
  let value := interval.value * (if 0 ≤ scale then 1 else Nat.pow 10 (-scale).toNat)
  (value / step, value % step, step)

/-- The better neighbour of the value on the grid of `10 ^ scale`, if one reads back. -/
def Interval.nearest? (interval : Interval) (scale : Int) : Option Nat :=
  let (low, rest, step) := interval.floor scale
  match interval.holds low scale, interval.holds (low + 1) scale with
  | true, true =>
    if 2 * rest < step then some low
    else if 2 * rest = step && low % 2 = 0 then some low
    else some (low + 1)
  | true, false => some low
  | false, true => some (low + 1)
  | false, false => none

/-- The place of the value's first digit: the least `place` with a value below `10 ^ place`, found
from a guess that is not too large. -/
def Interval.place (interval : Interval) : (fuel : Nat) → (guess : Int) → Int
  | 0, guess => guess
  | fuel + 1, guess =>
    if (interval.floor guess).1 = 0 then guess else interval.place fuel (guess + 1)

/-- The first hit on the grids with one digit, two digits, and so on. -/
def Interval.search (interval : Interval) (place : Int) : (fuel digits : Nat) → Scaled
  | 0, digits => ⟨(interval.floor (place - digits)).1, place - digits⟩
  | fuel + 1, digits =>
    match interval.nearest? (place - digits) with
    | some found => ⟨found, place - digits⟩
    | none => interval.search place fuel (digits + 1)

/-- The decimal without zeros at its end. -/
def Scaled.stripped (decimal : Scaled) : (fuel : Nat) → Scaled
  | 0 => decimal
  | fuel + 1 =>
    if decimal.digits ≠ 0 && decimal.digits % 10 = 0 then
      Scaled.stripped ⟨decimal.digits / 10, decimal.scale + 1⟩ fuel
    else decimal

/-- The shortest decimal that reads back as the positive double `mantissa · 2 ^ exponent`. -/
def shortest (mantissa : Nat) (exponent : Int) : Scaled :=
  let interval := Interval.ofParts mantissa exponent
  -- The binary place times log₁₀ 2, rounded down, is at most the decimal place.
  let guess := Int.fdiv ((mantissa.log2 + exponent) * 30103) 100000 - 1
  let place := interval.place 8 guess
  (interval.search place 17 1).stripped 20

/-! ## Layout -/

/-- Decimal digits of a number. -/
def digitsOf (number : Nat) : List Char := Nat.toDigits 10 number

/-- An integer in decimal. -/
def integerText (number : Int) : List Char :=
  if number < 0 then '-' :: digitsOf number.natAbs else digitsOf number.natAbs

/-- The decimal with a point in it, or in scientific form where it is too large or too small. -/
def Scaled.layout (decimal : Scaled) : List Char :=
  let digits := digitsOf decimal.digits
  let point := decimal.scale + digits.length
  if 0 ≤ decimal.scale && point ≤ 16 then
    digits ++ List.replicate decimal.scale.toNat '0' ++ ['.', '0']
  else if 0 < point && point ≤ 16 then
    digits.take point.toNat ++ '.' :: digits.drop point.toNat
  else if -5 < point && point ≤ 0 then
    ['0', '.'] ++ List.replicate (-point).toNat '0' ++ digits
  else match digits with
    | [digit] => digit :: 'e' :: integerText (point - 1)
    | first :: others => first :: '.' :: others ++ 'e' :: integerText (point - 1)
    | [] => []

/-- The text of a double in the documents: the shortest decimal, a zero with its sign, and words
that begin with a point for what is not finite. -/
def Double.text : Double → List Char
  | .notANumber => ['.', 'n', 'a', 'n']
  | .infinite negative => (if negative then ['-'] else []) ++ ['.', 'i', 'n', 'f']
  | .finite negative mantissa exponent =>
    (if negative then ['-'] else []) ++
      (if mantissa = 0 then ['0', '.', '0'] else (shortest mantissa exponent).layout)

end Compliance.Decimal
