import QueryLowering.Sql.Node
import QueryLowering.TypeMapping.Source

/-!
# Inference of type mappings

The pass fills in the mappings that freshly built nodes lack, from the leaves
up. A node that has a mapping is finished: neither it nor anything below it is
changed.

* An operand of a binary node takes the mapping of the other operand if both
  have the same kind or if the operand is the null constant, so that a literal
  beside a column is compared as the column is stored.
* A condition takes the canonical boolean mapping.
* A concatenation takes the first textual mapping of its operands, and another
  binary node or a negation the first mapping of its own kind.
* Everything else takes what the source has for the value type.
-/

namespace QueryLowering
namespace Sql

namespace Header

/-- Fill in a missing mapping: the canonical one for a condition, else the
inherited one, else what the source has for the value type. -/
def resolve
    (header : Header)
    (source : MappingSource)
    (inherited : Option TypeMapping) :
    Header :=
  if header.mapping.isSome then header
  else if header.isCondition then
    { header with mapping := some source.canonicalBoolean }
  else { header with mapping := inherited.or (source.find header.valueType) }

end Header

namespace Node

/-- The mapping that a node without one takes over from its sibling. -/
def adopted? (node sibling : Node) : Option TypeMapping :=
  sibling.mapping.filter fun mapping =>
    node.isNullConstant || mapping.kind == node.valueType.kind

/-- Give the null constant the mapping of its sibling, if it has none yet. -/
def fillNull (node sibling : Node) : Node :=
  match node.mapping, sibling.mapping with
  | none, some mapping =>
      if node.isNullConstant then node.withMapping mapping else node
  | _, _ => node

/-- The first mapping among two operands that satisfies a condition. -/
def firstMapping?
    (accepts : TypeMapping → Bool)
    (left right : Node) :
    Option TypeMapping :=
  (left.mapping.filter accepts).or (right.mapping.filter accepts)

/-- The mapping that a binary node takes over from its operands. -/
def inheritedFromPair
    (op : BinaryOp)
    (valueType : ValueType)
    (left right : Node) :
    Option TypeMapping :=
  match op with
  | .concat => firstMapping? TypeMapping.isTextual left right
  | _ =>
      firstMapping? (fun mapping => mapping.kind == valueType.kind) left right

/-- The mapping that a unary node takes over from its operand. -/
def inheritedFromOperand
    (op : UnaryOp)
    (valueType : ValueType)
    (operand : Node) :
    Option TypeMapping :=
  match op with
  | .negate =>
      operand.mapping.filter fun mapping => mapping.kind == valueType.kind
  | _ => none

mutual

/-- Fill in the missing mappings of a node and of all below it that is not
finished. -/
def infer (source : MappingSource) : Node → Node
  | .leaf header atom => .leaf (header.resolve source none) atom
  | .apply header op operand =>
      if header.mapping.isSome then .apply header op operand
      else
        let operand := infer source operand
        .apply
          (header.resolve source
            (inheritedFromOperand op header.valueType operand))
          op operand
  | .combine header op left right =>
      if header.mapping.isSome then .combine header op left right
      else
        let first :=
          match left.mapping, left.adopted? right with
          | none, some mapping => left.withMapping mapping
          | _, _ => infer source left
        let second :=
          match right.mapping, right.adopted? left with
          | none, some mapping => right.withMapping mapping
          | _, _ => infer source right
        let left := first.fillNull second
        let right := second.fillNull first
        .combine
          (header.resolve source
            (inheritedFromPair op header.valueType left right))
          op left right
  | .call header name arguments =>
      if header.mapping.isSome then .call header name arguments
      else .call (header.resolve source none) name (inferAll source arguments)

/-- Fill in the missing mappings of every node of a list. -/
def inferAll (source : MappingSource) : List Node → List Node
  | [] => []
  | node :: rest => infer source node :: inferAll source rest

end

end Node
end Sql
end QueryLowering
