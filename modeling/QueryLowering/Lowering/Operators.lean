import QueryLowering.Lowered
import QueryLowering.Lowering.Error
import QueryLowering.Sql.Condition
import QueryLowering.Sql.Inference

/-!
# Lowering of operators

An operator whose operands are lowered becomes an SQL operator over them. Where
an operand is no SQL expression, not even under one conversion to the erased
type, the operator has no SQL equivalent; only a conversion can be kept above
SQL.

A comparison for equality with null becomes a null test. The operands of logical
operators become conditions.
-/

namespace QueryLowering

namespace Query.BinaryOp

/-- The SQL operator for an operator of queries. -/
def toSql : Query.BinaryOp → Sql.BinaryOp
  | .add => .add
  | .subtract => .subtract
  | .multiply => .multiply
  | .divide => .divide
  | .modulo => .modulo
  | .equal => .equal
  | .notEqual => .notEqual
  | .lessThan => .lessThan
  | .lessThanOrEqual => .lessThanOrEqual
  | .greaterThan => .greaterThan
  | .greaterThanOrEqual => .greaterThanOrEqual
  | .andAlso => .and
  | .orElse => .or

end Query.BinaryOp

namespace Lowering

variable (source : MappingSource)

/-- The operand of a logical operator: with its mappings, and as a condition. -/
def conditionOperand (node : Sql.Node) : Sql.Node :=
  (node.infer source).toCondition source.canonicalBoolean

/-- A text operand of a concatenation, under the common mapping. Anything but
text is cast to text. -/
def asText (mapping : TypeMapping) (operand : Sql.Node) : Sql.Node :=
  if operand.valueType.isTextual then operand.withMapping mapping
  else (operand.cast .string).withMapping mapping

/-- The concatenation of two expressions. Its mapping is the first textual one
that an operand carries already, else the first that an operand is inferred to
have. -/
def concatenation (left right : Sql.Node) : Except LoweringError Sql.Node :=
  let carried := Sql.Node.firstMapping? TypeMapping.isTextual left right
  let left := left.infer source
  let right := right.infer source
  match carried.or
      (Sql.Node.firstMapping? TypeMapping.isTextual left right) with
  | none => .error (.concatMappingNotInferred left.valueType right.valueType)
  | some mapping =>
      let left := asText mapping left
      let right := asText mapping right
      let valueType :=
        ValueType.string.withNullability
          (left.valueType.nullable || right.valueType.nullable)
      .ok ((Sql.Node.binary .concat left right valueType).withMapping mapping)

/-- A binary operator over two SQL expressions. -/
def combination
    (op : Query.BinaryOp)
    (valueType : ValueType)
    (left right : Sql.Node) :
    Sql.Node :=
  if op.isEquality && left.isNullLiteral != right.isNullLiteral then
    let operand := if left.isNullLiteral then right else left
    (Sql.Node.nullTest operand (op == .notEqual)).infer source
  else if op.isLogical then
    (Sql.Node.binary op.toSql (conditionOperand source left)
      (conditionOperand source right) valueType).infer source
  else
    (Sql.Node.binary op.toSql left right valueType).infer source

/-- Whether an operator is resolved to the overload that joins texts. -/
def joinsTexts (op : Query.BinaryOp) (method : Option Method) : Bool :=
  op == .add && method.any Method.isStringConcat

/-- A binary operator over two lowered operands. -/
def binary
    (op : Query.BinaryOp)
    (method : Option Method)
    (valueType : ValueType)
    (left right : Lowered) :
    Except LoweringError Lowered :=
  match left.operand?, right.operand? with
  | some left, some right =>
      if joinsTexts op method then (concatenation source left right).map .sql
      else .ok (.sql (combination source op valueType left right))
  | _, _ => .ok .unsupported

/-- A unary operator over a lowered operand. A conversion of an SQL expression
to another type than the erased one is a cast, and any other conversion is
kept. -/
def unary
    (op : Query.UnaryOp)
    (valueType : ValueType)
    (operand : Lowered) :
    Lowered :=
  if operand.isComplete then
    match op with
    | .convert =>
        match operand with
        | .sql node =>
            if valueType.isErased then .convert (.sql node) valueType
            else .sql ((node.cast valueType).infer source)
        | operand => .convert operand valueType
    | .not =>
        match operand.operand? with
        | some node =>
            .sql (((conditionOperand source node).not valueType).infer source)
        | none => .unsupported
    | .negate =>
        match operand.operand? with
        | some node => .sql ((node.negate valueType).infer source)
        | none => .unsupported
  else .unsupported

/-- The value of a field of a constructed object, if it is complete. -/
def field? (value : Lowered) : Option Lowered :=
  match value with
  | .sql node => some (.sql (node.infer source))
  | value => if value.isComplete then some value else none

end Lowering
end QueryLowering
