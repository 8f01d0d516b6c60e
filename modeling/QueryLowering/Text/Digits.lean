/-!
# Digits

Numbers are written in decimal without leading zeros, or with a fixed count of
digits in a given base. Reading accepts ASCII digits only.
-/

namespace QueryLowering
namespace Text

/-- The decimal digits of a number, without leading zeros. -/
def decimal (value : Nat) : List Char := Nat.toDigits 10 value

/-- The decimal form of an integer, with a minus sign before a negative one. -/
def signedDecimal (value : Int) : List Char :=
  if value < 0 then '-' :: decimal value.natAbs else decimal value.natAbs

/-- The last `width` digits of a number in the given base, the most significant
first and padded by zeros. -/
def fixedDigits (base : Nat) : (width : Nat) → (value : Nat) → List Char
  | 0, _ => []
  | width + 1, value =>
      fixedDigits base width (value / base) ++ [Nat.digitChar (value % base)]

@[simp] theorem fixedDigits_zero (base value : Nat) :
    fixedDigits base 0 value = [] := rfl

@[simp] theorem fixedDigits_succ (base width value : Nat) :
    fixedDigits base (width + 1) value =
      fixedDigits base width (value / base) ++ [Nat.digitChar (value % base)] :=
  rfl

@[simp] theorem length_fixedDigits (base width value : Nat) :
    (fixedDigits base width value).length = width := by
  induction width generalizing value with
  | zero => rfl
  | succ width hypothesis => simp [hypothesis]

/-- The decimal form of a number, padded by zeros to at least `width` digits. -/
def paddedDecimal (width value : Nat) : List Char :=
  let digits := decimal value
  List.replicate (width - digits.length) '0' ++ digits

/-- Two hexadecimal digits for a byte, in lower case. -/
def hexByte (byte : UInt8) : List Char := fixedDigits 16 2 byte.toNat

/-- Two hexadecimal digits for a byte, in upper case. -/
def upperHexByte (byte : UInt8) : List Char := (hexByte byte).map Char.toUpper

/-- The value of a hexadecimal digit of either case; decimal digits are among
them. -/
def digitValue? (character : Char) : Option Nat :=
  if '0' ≤ character ∧ character ≤ '9' then some (character.toNat - '0'.toNat)
  else if 'a' ≤ character ∧ character ≤ 'f' then
    some (character.toNat - 'a'.toNat + 10)
  else if 'A' ≤ character ∧ character ≤ 'F' then
    some (character.toNat - 'A'.toNat + 10)
  else none

/-- The number that a text of digits in the given base denotes. The empty text
denotes zero, and any other character makes the text unreadable. -/
def digitsValue? (base : Nat) (digits : List Char) : Option Nat :=
  digits.foldlM (fun value character => do
    let digit ← digitValue? character
    if digit < base then some (value * base + digit) else none) 0

/-- The number that a non-empty text of decimal digits denotes. -/
def decimalValue? : List Char → Option Nat
  | [] => none
  | digits => digitsValue? 10 digits

end Text
end QueryLowering
