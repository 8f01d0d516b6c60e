/-!
# Binary64 values

A binary floating-point number of 64 bits, given by its bits: a sign, eleven
bits of exponent and 52 bits of fraction. All arithmetic on it is exact
arithmetic on natural numbers.
-/

namespace QueryLowering

/-- The 64 bits of a floating-point number. Distinct bits are distinct values
here, so the payload of a number that is not a number is kept. -/
structure Binary64 where
  bits : UInt64
  deriving DecidableEq

namespace Binary64

/-- The number of fractions, two to the power 52. -/
def fractionCount : Nat := 0x10000000000000

/-- The number of biased exponents, two to the power 11. -/
def exponentCount : Nat := 0x800

/-- Whether the sign bit is set. -/
def isNegative (value : Binary64) : Bool :=
  value.bits.toNat / (fractionCount * exponentCount) == 1

/-- The biased exponent. -/
def exponentField (value : Binary64) : Nat :=
  value.bits.toNat / fractionCount % exponentCount

/-- The bits after the leading one. -/
def fraction (value : Binary64) : Nat :=
  value.bits.toNat % fractionCount

/-- Whether the value is finite. -/
def isFinite (value : Binary64) : Bool :=
  value.exponentField != 2047

/-- Whether the value is not a number. -/
def isNaN (value : Binary64) : Bool :=
  value.exponentField == 2047 && value.fraction != 0

/-- Whether the value is an infinity. -/
def isInfinite (value : Binary64) : Bool :=
  value.exponentField == 2047 && value.fraction == 0

/-- Whether the value is zero, of either sign. -/
def isZero (value : Binary64) : Bool :=
  value.exponentField == 0 && value.fraction == 0

/-- The integer that, times a power of two, is the magnitude of a finite
value. -/
def significand (value : Binary64) : Nat :=
  if value.exponentField = 0 then value.fraction
  else fractionCount + value.fraction

/-- The magnitude of a finite value is its significand times two to the power
`scale - 1074`. -/
def scale (value : Binary64) : Nat := value.exponentField - 1

/-- Equality of the numbers denoted: both zeros are equal, and a value that is
not a number differs from every value. -/
def numericallyEqual (left right : Binary64) : Bool :=
  !left.isNaN && !right.isNaN &&
    (left == right || (left.isZero && right.isZero))

end Binary64
end QueryLowering
