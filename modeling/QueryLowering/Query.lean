import QueryLowering.Literal
import QueryLowering.Text.Casing
import QueryLowering.ValueType

/-!
# Query trees

A query is an object-level expression over mapped entities: members, method
calls, operators, constants, parameters, object constructions and entity
shapers. An extension node stands for anything else and only holds its children
together.

Members and method calls may have no inner expression or target; those are the
static ones. A shaper names an entity type and the buffer its rows are read
from, and has no value of its own.
-/

namespace QueryLowering

/-- A numbered slot that the rows of one table are read into. -/
structure ValueBuffer where
  index : UInt32
  deriving DecidableEq

/-- An instance of an entity type, read from a buffer. -/
structure EntityRef where
  entityType : String
  buffer : ValueBuffer
  deriving DecidableEq

/-- A field or property. -/
structure Member where
  declaringType : ValueType
  name : String
  valueType : ValueType
  deriving DecidableEq

namespace Member

/-- Whether the member unwraps a nullable value. -/
def isNullableValue (member : Member) : Bool :=
  member.declaringType.nullable && member.name == "value"

end Member

/-- How a method is called. -/
inductive MethodKind
  | instanceMethod
  | staticMethod
  /-- The call `property(entity, "Name")`, which reads a property by its
  name. -/
  | propertyAccessor
  deriving DecidableEq

/-- A method or an overload of an operator. -/
structure Method where
  kind : MethodKind
  declaringKind : Kind
  name : String
  returnType : ValueType
  deriving DecidableEq

namespace Method

/-- The overload of addition that joins texts. -/
def stringConcat : Method := ⟨.staticMethod, .string, "concat", .string⟩

/-- Whether the method joins texts. -/
def isStringConcat (method : Method) : Bool :=
  method.declaringKind == .string && method.kind == .staticMethod
    && Text.equalIgnoringAsciiCase method.name "concat"

end Method

namespace Query

/-- The operators on two operands. -/
inductive BinaryOp
  | add
  | subtract
  | multiply
  | divide
  | modulo
  | equal
  | notEqual
  | lessThan
  | lessThanOrEqual
  | greaterThan
  | greaterThanOrEqual
  | andAlso
  | orElse
  deriving DecidableEq

namespace BinaryOp

/-- Every operator, in declaration order. -/
def all : List BinaryOp :=
  [.add, .subtract, .multiply, .divide, .modulo, .equal, .notEqual, .lessThan,
    .lessThanOrEqual, .greaterThan, .greaterThanOrEqual, .andAlso, .orElse]

/-- The name of an operator. -/
def name : BinaryOp → String
  | .add => "Add"
  | .subtract => "Subtract"
  | .multiply => "Multiply"
  | .divide => "Divide"
  | .modulo => "Modulo"
  | .equal => "Equal"
  | .notEqual => "NotEqual"
  | .lessThan => "LessThan"
  | .lessThanOrEqual => "LessThanOrEqual"
  | .greaterThan => "GreaterThan"
  | .greaterThanOrEqual => "GreaterThanOrEqual"
  | .andAlso => "AndAlso"
  | .orElse => "OrElse"

/-- The operator with a given name. -/
def ofName? (text : String) : Option BinaryOp :=
  all.find? fun op => op.name == text

/-- Whether the operator tests for equality or for its opposite. -/
def isEquality : BinaryOp → Bool
  | .equal | .notEqual => true
  | _ => false

/-- Whether the operator joins truth values. -/
def isLogical : BinaryOp → Bool
  | .andAlso | .orElse => true
  | _ => false

/-- Whether the operator orders its operands or tests them for equality. -/
def isComparison : BinaryOp → Bool
  | .equal | .notEqual | .lessThan | .lessThanOrEqual | .greaterThan
  | .greaterThanOrEqual => true
  | _ => false

end BinaryOp

/-- The operators on one operand. -/
inductive UnaryOp
  | convert
  | not
  | negate
  deriving DecidableEq

namespace UnaryOp

/-- Every operator, in declaration order. -/
def all : List UnaryOp := [.convert, .not, .negate]

/-- The name of an operator. -/
def name : UnaryOp → String
  | .convert => "Convert"
  | .not => "Not"
  | .negate => "Negate"

/-- The operator with a given name. -/
def ofName? (text : String) : Option UnaryOp :=
  all.find? fun op => op.name == text

end UnaryOp
end Query

/-- An object-level query expression. -/
inductive Query
  | access
      (inner : Option Query)
      (member : Member)
  | call
      (target : Option Query)
      (method : Method)
      (arguments : List Query)
  | binary
      (op : Query.BinaryOp)
      (left right : Query)
      (method : Option Method)
      (valueType : ValueType)
  | unary
      (op : Query.UnaryOp)
      (operand : Query)
      (valueType : ValueType)
  | constant
      (value : Literal)
      (valueType : ValueType)
  | parameter
      (name : String)
      (valueType : ValueType)
  | construction
      (typeName : String)
      (members : List String)
      (arguments : List Query)
  | shaper
      (entity : EntityRef)
  | extension
      (name : String)
      (children : List Query)

namespace Query

/-- Addition resolved to the overload that joins texts. -/
def stringConcat (left right : Query) : Query :=
  .binary .add left right (some .stringConcat) .string

/-- The null literal without a type of its own. -/
def null : Query := .constant .null (.orNull .object)

/-- Whether the query is a null literal. -/
def isNullConstant : Query → Bool
  | .constant .null _ => true
  | _ => false

/-- The direct subexpressions, in the order in which they are lowered. -/
def children : Query → List Query
  | .access inner _ => inner.toList
  | .call target _ arguments => target.toList ++ arguments
  | .binary _ left right _ _ => [left, right]
  | .unary _ operand _ => [operand]
  | .construction _ _ arguments => arguments
  | .extension _ children => children
  | .constant _ _ | .parameter _ _ | .shaper _ => []

/-- The static type. Shapers, constructions and extension nodes are erased. -/
def valueType : Query → ValueType
  | .access _ member => member.valueType
  | .call _ method _ => method.returnType
  | .binary _ _ _ _ valueType => valueType
  | .unary _ _ valueType => valueType
  | .constant _ valueType => valueType
  | .parameter _ valueType => valueType
  | .construction _ _ _ | .shaper _ | .extension _ _ => .object

/-- What sort of node a query is, in words. -/
def description : Query → String
  | .access _ _ => "member access"
  | .call _ _ _ => "method call"
  | .binary _ _ _ _ _ => "binary expression"
  | .unary _ _ _ => "unary expression"
  | .constant _ _ => "constant"
  | .parameter _ _ => "parameter"
  | .construction _ _ _ => "object construction"
  | .shaper _ => "entity shaper"
  | .extension _ _ => "opaque node"

end Query
end QueryLowering
