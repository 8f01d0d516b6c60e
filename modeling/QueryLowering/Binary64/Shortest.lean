import QueryLowering.Binary64
import QueryLowering.Text.Digits

/-!
# Shortest decimal text of a binary64 value

A finite value is written with the fewest significant digits that still read
back as the same value, and among those with the decimal nearest to it; of two
equally near decimals the greater is taken. Digits stand in positional
notation, without an exponent.

All comparisons are exact. A value and the bounds of its rounding interval are
scaled to natural numbers by one common factor, `2 ^ 1076 * 10 ^ 340`.
-/

namespace QueryLowering
namespace Binary64

/-- The numbers that round to a finite value: an interval around it, in units of
one over `2 ^ 1076 * 10 ^ 340`. Its ends belong to it exactly when the
significand is even. -/
structure RoundingInterval where
  lower : Nat
  middle : Nat
  upper : Nat
  closed : Bool

namespace RoundingInterval

/-- The scaled rounding interval of a finite value. Below a power of two the
neighbouring value is half as far away as above it. -/
def ofFinite (value : Binary64) : RoundingInterval :=
  let unit := Nat.pow 2 value.scale * Nat.pow 10 340
  let middle := 4 * value.significand
  let below := if value.fraction = 0 ∧ 1 < value.exponentField then 1 else 2
  { lower := (middle - below) * unit
    middle := middle * unit
    upper := (middle + 2) * unit
    closed := value.significand % 2 == 0 }

/-- Whether a scaled number lies in the interval. -/
def contains (interval : RoundingInterval) (number : Nat) : Bool :=
  if interval.closed then
    decide (interval.lower ≤ number ∧ number ≤ interval.upper)
  else
    decide (interval.lower < number ∧ number < interval.upper)

/-- The multiple of `step` that the interval contains, as a count of steps: of
the two neighbours of the middle the one inside, and the nearer if both are,
the greater if both are equally near. -/
def multiple? (interval : RoundingInterval) (step : Nat) : Option Nat :=
  let floor := interval.middle / step
  match interval.contains (floor * step),
      interval.contains ((floor + 1) * step) with
  | true, true =>
      if interval.middle - floor * step <
          (floor + 1) * step - interval.middle then
        some floor
      else some (floor + 1)
  | true, false => some floor
  | false, true => some (floor + 1)
  | false, false => none

end RoundingInterval

/-- A positive number in decimal: its digits, and the power of ten of the
last. -/
structure Decimal where
  digits : Nat
  exponent : Int

/-- Search the grids of powers of ten from coarse to fine, starting at the power
`exponent`, and take the first that has a point in the interval. -/
def firstDecimal? (interval : RoundingInterval) :
    (grids : Nat) → (exponent : Int) → Option Decimal
  | 0, _ => none
  | grids + 1, exponent =>
      match interval.multiple?
          (Nat.pow 10 (exponent + 340).toNat * Nat.pow 2 1076) with
      | some digits => some ⟨digits, exponent⟩
      | none => firstDecimal? interval grids (exponent - 1)

/-- The shortest decimal that reads back as a finite value other than zero.
Eighteen grids reach seventeen digits, which always suffice. -/
def shortest? (value : Binary64) : Option Decimal :=
  let interval := RoundingInterval.ofFinite value
  let leading := (Text.decimal (interval.middle / Nat.pow 2 1076)).length
  firstDecimal? interval 18 ((leading : Int) - 340)

/-- Positional notation of a decimal, without an exponent. -/
def Decimal.text (decimal : Decimal) : List Char :=
  let digits := Text.decimal decimal.digits
  if 0 ≤ decimal.exponent then
    digits ++ List.replicate decimal.exponent.toNat '0'
  else
    let places := (-decimal.exponent).toNat
    let padded := List.replicate (places + 1 - digits.length) '0' ++ digits
    padded.take (padded.length - places) ++ '.' ::
      padded.drop (padded.length - places)

/-- The text of the magnitude of a value. -/
def magnitudeText (value : Binary64) : List Char :=
  if value.isFinite then
    if value.isZero then ['0']
    else match value.shortest? with
      | some decimal => decimal.text
      | none => []
  else ['i', 'n', 'f']

/-- The text of a value. A value that is not a number has no sign. -/
def text (value : Binary64) : List Char :=
  if value.isNaN then ['N', 'a', 'N']
  else if value.isNegative then '-' :: value.magnitudeText
  else value.magnitudeText

end Binary64
end QueryLowering
