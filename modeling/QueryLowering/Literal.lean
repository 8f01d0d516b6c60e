import QueryLowering.Binary64
import QueryLowering.DateTime
import QueryLowering.Guid

/-!
# Literals

The values that constants of a query or of an SQL expression carry. Decimal
numbers are kept as the text in which they were given.
-/

namespace QueryLowering

/-- A constant value. -/
inductive Literal
  | null
  | boolean (value : Bool)
  | integer (value : Int64)
  | float (value : Binary64)
  | decimal (text : String)
  | string (text : String)
  | dateTime (value : DateTime)
  | guid (value : Guid)
  | bytes (value : List UInt8)
  deriving DecidableEq

namespace Literal

/-- Whether the literal is null. -/
def isNull : Literal → Bool
  | .null => true
  | _ => false

/-- The text of a string literal. -/
def string? : Literal → Option String
  | .string text => some text
  | _ => none

/-- Equality of literals in which floating-point numbers compare as numbers, so
that one that is not a number differs from itself. -/
def valueEqual : Literal → Literal → Bool
  | .float left, .float right => left.numericallyEqual right
  | left, right => left == right

end Literal
end QueryLowering
