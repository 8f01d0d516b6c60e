import QueryLowering.Sql.Operator
import QueryLowering.TypeMapping

/-!
# SQL expressions

A relational expression is a tree of nodes. Every node carries the same header:
its value type, the type mapping once it is known, and whether it denotes a
condition, that is, a truth value that SQL accepts as a predicate.

The constructors of the tree leave the header free. The functions named for SQL
constructs build a node without a mapping and with the header that belongs to
the construct.
-/

namespace QueryLowering
namespace Sql

/-- A column of a table that is known under an alias. -/
structure ColumnRef where
  tableAlias : String
  column : String
  deriving DecidableEq

/-- What every node carries. -/
structure Header where
  valueType : ValueType
  mapping : Option TypeMapping
  isCondition : Bool
  deriving DecidableEq

/-- An expression without operands. -/
inductive Atom
  /-- SQL text, taken as it stands. -/
  | fragment (sql : String)
  | constant (value : Literal)
  | parameter (name : String)
  | column (column : ColumnRef)
  deriving DecidableEq

/-- A relational expression. -/
inductive Node
  | leaf
      (header : Header)
      (atom : Atom)
  | apply
      (header : Header)
      (op : UnaryOp)
      (operand : Node)
  | combine
      (header : Header)
      (op : BinaryOp)
      (left right : Node)
  | call
      (header : Header)
      (name : String)
      (arguments : List Node)

namespace Node

/-- The header of the root. -/
def header : Node → Header
  | .leaf header _ => header
  | .apply header _ _ => header
  | .combine header _ _ _ => header
  | .call header _ _ => header

@[simp] theorem header_leaf (header : Header) (atom : Atom) :
    (Node.leaf header atom).header = header := rfl

@[simp] theorem header_apply (header : Header) (op : UnaryOp) (operand : Node) :
    (Node.apply header op operand).header = header := rfl

@[simp] theorem header_combine
    (header : Header)
    (op : BinaryOp)
    (left right : Node) :
    (Node.combine header op left right).header = header := rfl

@[simp] theorem header_call
    (header : Header)
    (name : String)
    (arguments : List Node) :
    (Node.call header name arguments).header = header := rfl

/-- The same node with another header. -/
def withHeader : Node → Header → Node
  | .leaf _ atom, header => .leaf header atom
  | .apply _ op operand, header => .apply header op operand
  | .combine _ op left right, header => .combine header op left right
  | .call _ name arguments, header => .call header name arguments

@[simp] theorem header_withHeader (node : Node) (header : Header) :
    (node.withHeader header).header = header := by
  cases node <;> rfl

@[simp] theorem withHeader_header (node : Node) :
    node.withHeader node.header = node := by
  cases node <;> rfl

@[simp] theorem withHeader_withHeader (node : Node) (first second : Header) :
    (node.withHeader first).withHeader second = node.withHeader second := by
  cases node <;> rfl

/-- The static type. -/
def valueType (node : Node) : ValueType := node.header.valueType

/-- The type mapping, once it is known. -/
def mapping (node : Node) : Option TypeMapping := node.header.mapping

/-- Whether the node denotes a condition. -/
def isCondition (node : Node) : Bool := node.header.isCondition

/-- The same node with the given mapping. -/
def withMapping (node : Node) (mapping : TypeMapping) : Node :=
  node.withHeader { node.header with mapping := some mapping }

@[simp] theorem mapping_withMapping (node : Node) (mapping : TypeMapping) :
    (node.withMapping mapping).mapping = some mapping := by
  simp [withMapping, Node.mapping]

@[simp] theorem valueType_withMapping (node : Node) (mapping : TypeMapping) :
    (node.withMapping mapping).valueType = node.valueType := by
  simp [withMapping, Node.valueType]

@[simp] theorem isCondition_withMapping (node : Node) (mapping : TypeMapping) :
    (node.withMapping mapping).isCondition = node.isCondition := by
  simp [withMapping, Node.isCondition]

/-- The same node with its declared nullability off. No value changes. -/
def toNonNullable (node : Node) : Node :=
  node.withHeader { node.header with valueType := node.valueType.nonNullable }

/-- SQL text, taken as it stands. -/
def fragment (sql : String) (valueType : ValueType) : Node :=
  .leaf ⟨valueType, none, false⟩ (.fragment sql)

/-- A constant. -/
def constant (value : Literal) (valueType : ValueType) : Node :=
  .leaf ⟨valueType, none, false⟩ (.constant value)

/-- A parameter. -/
def parameter (name : String) (valueType : ValueType) : Node :=
  .leaf ⟨valueType, none, false⟩ (.parameter name)

/-- A column. Its mapping is known when it is bound. -/
def column
    (column : ColumnRef)
    (valueType : ValueType)
    (mapping : Option TypeMapping) :
    Node :=
  .leaf ⟨valueType, mapping, false⟩ (.column column)

/-- A conversion, which is nullable when its target or its operand is. -/
def cast (operand : Node) (target : ValueType) : Node :=
  .apply
    ⟨target.withNullability (target.nullable || operand.valueType.nullable),
      none, false⟩
    .cast operand

/-- The test for null, or for its absence if negated. -/
def nullTest (operand : Node) (negated : Bool) : Node :=
  .apply ⟨.boolean, none, true⟩ (.nullTest negated) operand

/-- The negation of a truth value, which is a condition when its operand is. -/
def not (operand : Node) (valueType : ValueType) : Node :=
  .apply ⟨valueType, none, operand.isCondition⟩ .not operand

/-- The negation of a number. -/
def negate (operand : Node) (valueType : ValueType) : Node :=
  .apply ⟨valueType, none, false⟩ .negate operand

/-- An operator on two operands, which is a condition when the operator says
so. -/
def binary (op : BinaryOp) (left right : Node) (valueType : ValueType) : Node :=
  .combine ⟨valueType, none, op.isCondition⟩ op left right

/-- A function call. -/
def function
    (name : String)
    (arguments : List Node)
    (valueType : ValueType) :
    Node :=
  .call ⟨valueType, none, false⟩ name arguments

/-- The literal of a constant. -/
def literal? : Node → Option Literal
  | .leaf _ (.constant value) => some value
  | _ => none

/-- Whether the node is the null constant. -/
def isNullConstant : Node → Bool
  | .leaf _ (.constant .null) => true
  | _ => false

/-- Whether the node is the null constant, bare or under casts. -/
def isNullLiteral : Node → Bool
  | .leaf _ (.constant .null) => true
  | .apply _ .cast operand => operand.isNullLiteral
  | _ => false

/-- The direct operands, in evaluation order. -/
def children : Node → List Node
  | .leaf _ _ => []
  | .apply _ _ operand => [operand]
  | .combine _ _ left right => [left, right]
  | .call _ _ arguments => arguments

mutual

/-- Whether this node and all below it carry a mapping. -/
def isFullyMapped : Node → Bool
  | .leaf header _ => header.mapping.isSome
  | .apply header _ operand => header.mapping.isSome && operand.isFullyMapped
  | .combine header _ left right =>
      header.mapping.isSome && (left.isFullyMapped && right.isFullyMapped)
  | .call header _ arguments =>
      header.mapping.isSome && areFullyMapped arguments

/-- Whether every node of a list is fully mapped. -/
def areFullyMapped : List Node → Bool
  | [] => true
  | node :: rest => node.isFullyMapped && areFullyMapped rest

end

/-- Equality of atoms, in which literals compare as values. -/
def atomsValueEqual : Atom → Atom → Bool
  | .constant left, .constant right => left.valueEqual right
  | left, right => left == right

mutual

/-- Equality of expressions, in which literals compare as values. -/
def valueEqual : Node → Node → Bool
  | .leaf header atom, .leaf header' atom' =>
      header == header' && atomsValueEqual atom atom'
  | .apply header op operand, .apply header' op' operand' =>
      header == header' && op == op' && operand.valueEqual operand'
  | .combine header op left right, .combine header' op' left' right' =>
      header == header' && op == op' && left.valueEqual left' &&
        right.valueEqual right'
  | .call header name arguments, .call header' name' arguments' =>
      header == header' && name == name' && allValueEqual arguments arguments'
  | _, _ => false

/-- Equality of lists of expressions, in which literals compare as values. -/
def allValueEqual : List Node → List Node → Bool
  | [], [] => true
  | node :: rest, node' :: rest' =>
      node.valueEqual node' && allValueEqual rest rest'
  | _, _ => false

end

end Node
end Sql
end QueryLowering
