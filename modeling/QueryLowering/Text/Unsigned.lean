import QueryLowering.Text.Digits

/-!
# Unsigned 32-bit numbers as text

A number is an optional plus sign and at least one decimal digit, and any number
of leading zeros is allowed. The text is read from left to right, and the first
character at which it goes wrong decides the error.
-/

namespace QueryLowering
namespace Text

/-- Why a text is no unsigned 32-bit number. -/
inductive UnsignedError
  | empty
  | invalidDigit
  | tooLarge
  deriving DecidableEq

namespace UnsignedError

/-- The error in words. -/
def message : UnsignedError → String
  | .empty => "cannot parse integer from empty string"
  | .invalidDigit => "invalid digit found in string"
  | .tooLarge => "number too large to fit in target type"

end UnsignedError

/-- Extend a number by decimal digits, as long as it stays below `2 ^ 32`. -/
def extendUnsigned (value : Nat) : List Char → Except UnsignedError Nat
  | [] => .ok value
  | character :: rest =>
      if character.isDigit then
        let extended := value * 10 + (character.toNat - '0'.toNat)
        if extended < UInt32.size then extendUnsigned extended rest
        else .error .tooLarge
      else .error .invalidDigit

/-- Read an unsigned 32-bit number. -/
def readUnsigned : List Char → Except UnsignedError UInt32
  | [] => .error .empty
  | ['+'] => .error .invalidDigit
  | '+' :: digits => (extendUnsigned 0 digits).map UInt32.ofNat
  | digits => (extendUnsigned 0 digits).map UInt32.ofNat

end Text
end QueryLowering
