/-!
# SQL operators

The operators of SQL expressions. Some have a truth value as their result and
are conditions; among these the comparisons take operands that are no
conditions themselves.
-/

namespace QueryLowering
namespace Sql

/-- The operators on two operands. -/
inductive BinaryOp
  | add
  | subtract
  | multiply
  | divide
  | modulo
  | concat
  | equal
  | notEqual
  | lessThan
  | lessThanOrEqual
  | greaterThan
  | greaterThanOrEqual
  | and
  | or
  | like
  deriving DecidableEq

namespace BinaryOp

/-- Every operator, in declaration order. -/
def all : List BinaryOp :=
  [.add, .subtract, .multiply, .divide, .modulo, .concat, .equal, .notEqual,
    .lessThan, .lessThanOrEqual, .greaterThan, .greaterThanOrEqual, .and, .or,
    .like]

/-- The name of an operator. -/
def name : BinaryOp → String
  | .add => "Add"
  | .subtract => "Subtract"
  | .multiply => "Multiply"
  | .divide => "Divide"
  | .modulo => "Modulo"
  | .concat => "Concat"
  | .equal => "Equal"
  | .notEqual => "NotEqual"
  | .lessThan => "LessThan"
  | .lessThanOrEqual => "LessThanOrEqual"
  | .greaterThan => "GreaterThan"
  | .greaterThanOrEqual => "GreaterThanOrEqual"
  | .and => "And"
  | .or => "Or"
  | .like => "Like"

/-- The operator with a given name. -/
def ofName? (text : String) : Option BinaryOp :=
  all.find? fun op => op.name == text

/-- Whether the operator joins conditions. -/
def isLogical : BinaryOp → Bool
  | .and | .or => true
  | _ => false

/-- Whether the operator compares two values. -/
def isComparison : BinaryOp → Bool
  | .equal | .notEqual | .lessThan | .lessThanOrEqual | .greaterThan
  | .greaterThanOrEqual
  | .like => true
  | _ => false

/-- Whether the result of the operator is a truth value. -/
def isCondition (op : BinaryOp) : Bool := op.isComparison || op.isLogical

end BinaryOp

/-- The operators on one operand. -/
inductive UnaryOp
  /-- Conversion to the value type of the node. -/
  | cast
  /-- The test for null, or for its absence if negated. -/
  | nullTest (negated : Bool)
  | not
  | negate
  deriving DecidableEq

namespace UnaryOp

/-- Whether an application of the operator is a condition, given whether the
operand is. -/
def isCondition (op : UnaryOp) (operandIsCondition : Bool) : Bool :=
  match op with
  | .nullTest _ => true
  | .not => operandIsCondition
  | .cast | .negate => false

end UnaryOp
end Sql
end QueryLowering
