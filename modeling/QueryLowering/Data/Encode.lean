import QueryLowering.Catalog.Entity
import QueryLowering.Data
import QueryLowering.Lowered

/-!
# Encoding as exchange data

The data trees of types, literals, queries, SQL expressions and results.
-/

namespace QueryLowering

/-- Encode a text given as characters. -/
def Data.ofCharacters (characters : List Char) : Data :=
  .text (String.ofList characters)

namespace ValueType

/-- Encode a value type. -/
def toData (valueType : ValueType) : Data :=
  .record [("kind", .text valueType.kind.documentName),
    ("nullable", .boolean valueType.nullable)]

end ValueType

namespace Literal

/-- Encode a literal. -/
def toData : Literal → Data
  | .null => .text "Null"
  | .boolean value => .variant "Boolean" (.boolean value)
  | .integer value => .variant "Integer" (.integer value.toInt)
  | .float value => .variant "Float" (.float value)
  | .decimal text => .variant "Decimal" (.text text)
  | .string text => .variant "String" (.text text)
  | .dateTime value => .variant "DateTime" (.ofCharacters value.text)
  | .guid value => .variant "Guid" (.ofCharacters value.text)
  | .bytes value =>
      .variant "Bytes" (.list (value.map fun byte => .integer byte.toNat))

end Literal

namespace Equality

/-- The name of a way of comparing. -/
def name : Equality → String
  | .exact => "exact"
  | .collated => "collated"

end Equality

namespace TypeMapping

/-- Encode a type mapping. -/
def toData (mapping : TypeMapping) : Data :=
  .record [("store_type", .text mapping.storeType),
    ("kind", .text mapping.kind.documentName),
    ("equality", .text mapping.equality.name),
    ("true_literal", .text mapping.trueLiteral),
    ("false_literal", .text mapping.falseLiteral)]

end TypeMapping

namespace EntityRef

/-- Encode a reference to an entity. -/
def toData (entity : EntityRef) : Data :=
  .record [("entity_type", .text entity.entityType),
    ("value_buffer", .integer entity.buffer.index.toNat)]

end EntityRef

namespace Member

/-- Encode a member. -/
def toData (member : Member) : Data :=
  .record [("declaring_type", member.declaringType.toData),
    ("name", .text member.name), ("value_type", member.valueType.toData)]

end Member

namespace MethodKind

/-- The name of a way of calling. -/
def name : MethodKind → String
  | .instanceMethod => "Instance"
  | .staticMethod => "Static"
  | .propertyAccessor => "PropertyAccessor"

end MethodKind

namespace Method

/-- Encode a method. -/
def toData (method : Method) : Data :=
  .record [("kind", .text method.kind.name),
    ("declaring_type", .text method.declaringKind.documentName),
    ("name", .text method.name), ("return_type", method.returnType.toData)]

end Method

namespace Query

mutual

/-- Encode a query. -/
def toData : Query → Data
  | .access inner member =>
      .variant "MemberAccess"
        (.record [("inner", innerToData inner), ("member", member.toData)])
  | .call target method arguments =>
      .variant "MethodCall" (.record [("target", innerToData target),
        ("method", method.toData), ("arguments", .list (allToData arguments))])
  | .binary op left right method valueType =>
      .variant "Binary" (.record [("operator", .text op.name),
        ("left", left.toData), ("right", right.toData),
        ("method", .ofOption Method.toData method),
        ("value_type", valueType.toData)])
  | .unary op operand valueType =>
      .variant "Unary" (.record [("operator", .text op.name),
        ("operand", operand.toData), ("value_type", valueType.toData)])
  | .constant value valueType =>
      .variant "Constant"
        (.record [("value", value.toData), ("value_type", valueType.toData)])
  | .parameter name valueType =>
      .variant "Parameter"
        (.record [("name", .text name), ("value_type", valueType.toData)])
  | .construction typeName members arguments =>
      .variant "ObjectConstruction" (.record [("type_name", .text typeName),
        ("members", .list (members.map .text)),
        ("arguments", .list (allToData arguments))])
  | .shaper entity => .variant "EntityShaper" entity.toData
  | .extension name children =>
      .variant "Opaque" (.record
        [("name", .text name), ("children", .list (allToData children))])

/-- Encode an inner query that may be absent. -/
def innerToData : Option Query → Data
  | none => .null
  | some query => query.toData

/-- Encode several queries. -/
def allToData : List Query → List Data
  | [] => []
  | query :: rest => query.toData :: allToData rest

end
end Query

namespace Sql

namespace Atom

/-- Encode an expression without operands. -/
def toData : Atom → Data
  | .fragment sql => .variant "Fragment" (.text sql)
  | .constant value => .variant "Constant" value.toData
  | .parameter name => .variant "Parameter" (.text name)
  | .column reference =>
      .variant "Column" (.record [("table_alias", .text reference.tableAlias),
        ("column", .text reference.column)])

end Atom

namespace UnaryOp

/-- Encode the application of an operator to an encoded operand. -/
def toData (op : UnaryOp) (operand : Data) : Data :=
  match op with
  | .cast => .variant "Cast" operand
  | .nullTest negated =>
      .variant "IsNull"
        (.record [("operand", operand), ("negated", .boolean negated)])
  | .not =>
      .variant "Unary"
        (.record [("operator", .text "Not"), ("operand", operand)])
  | .negate =>
      .variant "Unary"
        (.record [("operator", .text "Negate"), ("operand", operand)])

end UnaryOp

namespace Header

/-- Encode a node with a header, around its encoded expression. -/
def toData (header : Header) (expression : Data) : Data :=
  .record [("expr", expression), ("value_type", header.valueType.toData),
    ("type_mapping", .ofOption TypeMapping.toData header.mapping),
    ("is_condition", .boolean header.isCondition)]

end Header

namespace Node

mutual

/-- Encode an SQL expression. -/
def toData : Node → Data
  | .leaf header atom => header.toData atom.toData
  | .apply header op operand => header.toData (op.toData operand.toData)
  | .combine header op left right =>
      header.toData (.variant "Binary" (.record [("operator", .text op.name),
        ("left", left.toData), ("right", right.toData)]))
  | .call header name arguments =>
      header.toData (.variant "Function" (.record [("name", .text name),
        ("args", .list (allToData arguments))]))

/-- Encode several SQL expressions. -/
def allToData : List Node → List Data
  | [] => []
  | node :: rest => node.toData :: allToData rest

end
end Node
end Sql

namespace Lowered

mutual

/-- Encode a result. -/
def toData : Lowered → Data
  | .sql node => .variant "Sql" node.toData
  | .shaper entity => .variant "Shaper" entity.toData
  | .convert operand target =>
      .variant "Convert"
        (.record [("operand", operand.toData), ("target", target.toData)])
  | .projection fields => .variant "Projection" (.list (fieldsToData fields))
  | .extension name children =>
      .variant "Opaque" (.record
        [("name", .text name), ("children", .list (allToData children))])
  | .unsupported => .text "Untranslatable"

/-- Encode the fields of a constructed object. -/
def fieldsToData : List (String × Lowered) → List Data
  | [] => []
  | (member, value) :: rest =>
      .record [("member", .text member), ("value", value.toData)] ::
        fieldsToData rest

/-- Encode several results. -/
def allToData : List Lowered → List Data
  | [] => []
  | value :: rest => value.toData :: allToData rest

end
end Lowered
end QueryLowering
