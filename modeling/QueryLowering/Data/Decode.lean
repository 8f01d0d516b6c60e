import QueryLowering.Data.Encode
import QueryLowering.Settings

/-!
# Decoding of exchange data

Data of another form than the encoding has no value. Queries and SQL expressions
nest at most as deep as the data they are read from, which bounds the recursion.
-/

namespace QueryLowering

namespace ValueType

/-- Decode a kind. -/
def kindOfData? (data : Data) : Option Kind :=
  data.variantName?.bind Kind.ofDocumentName?

/-- Decode a value type. -/
def ofData? (data : Data) : Option ValueType := do
  let fields ← data.fields? ["kind", "nullable"]
  let kind ← Data.required? fields "kind" kindOfData?
  let nullable ← Data.required? fields "nullable" Data.boolean?
  return { kind, nullable }

end ValueType

namespace Literal

/-- Decode a number as a floating-point number. -/
def floatOfData? : Data → Option Binary64
  | .float value => some value
  | .integer value => some ⟨(Float.ofInt value).toBits⟩
  | _ => none

/-- Decode an integer of 64 bits. -/
def int64OfData? (data : Data) : Option Int64 := do
  let value ← data.integer?
  if Int64.minValue.toInt ≤ value ∧ value ≤ Int64.maxValue.toInt then
    some (Int64.ofInt value)
  else none

/-- Decode a byte. -/
def byteOfData? (data : Data) : Option UInt8 :=
  (data.bounded? 256).map UInt8.ofNat

/-- Decode a literal. -/
def ofData? (data : Data) : Option Literal :=
  match data.variant? with
  | some ("Null", none) => some .null
  | some ("Null", some .null) => some .null
  | some ("Boolean", some content) => content.boolean?.map .boolean
  | some ("Integer", some content) => (int64OfData? content).map .integer
  | some ("Float", some content) => (floatOfData? content).map .float
  | some ("Decimal", some content) => content.text?.map .decimal
  | some ("String", some content) => content.text?.map .string
  | some ("DateTime", some content) => do
      let text ← content.text?
      return .dateTime (← DateTime.ofText? text.toList)
  | some ("Guid", some content) => do
      let text ← content.text?
      return .guid (← Guid.ofText? text.toList)
  | some ("Bytes", some content) => (content.list? byteOfData?).map .bytes
  | _ => none

end Literal

namespace TypeMapping

/-- Decode a way of comparing. -/
def equalityOfData? (data : Data) : Option Equality :=
  match data.variantName? with
  | some "exact" => some .exact
  | some "collated" => some .collated
  | _ => none

/-- Decode a type mapping. -/
def ofData? (data : Data) : Option TypeMapping := do
  let fields ←
    data.fields?
      ["store_type", "kind", "equality", "true_literal", "false_literal"]
  let storeType ← Data.required? fields "store_type" Data.text?
  let kind ← Data.required? fields "kind" ValueType.kindOfData?
  let equality ← Data.required? fields "equality" equalityOfData?
  let trueLiteral ← Data.required? fields "true_literal" Data.text?
  let falseLiteral ← Data.required? fields "false_literal" Data.text?
  return { storeType, kind, equality, trueLiteral, falseLiteral }

end TypeMapping

namespace EntityRef

/-- Decode a reference to an entity. -/
def ofData? (data : Data) : Option EntityRef := do
  let fields ← data.fields? ["entity_type", "value_buffer"]
  let entityType ← Data.required? fields "entity_type" Data.text?
  let index ← Data.required? fields "value_buffer" (Data.bounded? UInt32.size)
  return ⟨entityType, ⟨UInt32.ofNat index⟩⟩

end EntityRef

namespace Member

/-- Decode a member. -/
def ofData? (data : Data) : Option Member := do
  let fields ← data.fields? ["declaring_type", "name", "value_type"]
  let declaringType ← Data.required? fields "declaring_type" ValueType.ofData?
  let name ← Data.required? fields "name" Data.text?
  let valueType ← Data.required? fields "value_type" ValueType.ofData?
  return { declaringType, name, valueType }

end Member

namespace Method

/-- Decode a way of calling. -/
def kindOfData? (data : Data) : Option MethodKind := do
  let name ← data.variantName?
  [MethodKind.instanceMethod, .staticMethod, .propertyAccessor].find?
    fun kind => kind.name == name

/-- Decode a method. -/
def ofData? (data : Data) : Option Method := do
  let fields ← data.fields? ["kind", "declaring_type", "name", "return_type"]
  let kind ← Data.required? fields "kind" kindOfData?
  let declaringKind ← Data.required? fields "declaring_type"
    ValueType.kindOfData?
  let name ← Data.required? fields "name" Data.text?
  let returnType ← Data.required? fields "return_type" ValueType.ofData?
  return { kind, declaringKind, name, returnType }

end Method

namespace Query

/-- Decode an operator on two operands. -/
def binaryOpOfData? (data : Data) : Option BinaryOp :=
  data.variantName?.bind BinaryOp.ofName?

/-- Decode an operator on one operand. -/
def unaryOpOfData? (data : Data) : Option UnaryOp :=
  data.variantName?.bind UnaryOp.ofName?

/-- Decode a query that nests at most `levels` deep. -/
def ofDataWithin? : (levels : Nat) → Data → Option Query
  | 0, _ => none
  | levels + 1, data => do
      let (name, some content) ← data.variant? | none
      match name with
      | "MemberAccess" =>
          let fields ← content.recordFields?
          let inner ← Data.optional? fields "inner" (ofDataWithin? levels)
          let member ← Data.required? fields "member" Member.ofData?
          return .access inner member
      | "MethodCall" =>
          let fields ← content.recordFields?
          let target ← Data.optional? fields "target" (ofDataWithin? levels)
          let method ← Data.required? fields "method" Method.ofData?
          let arguments ← Data.required? fields "arguments"
            (Data.list? (ofDataWithin? levels))
          return .call target method arguments
      | "Binary" =>
          let fields ← content.recordFields?
          let op ← Data.required? fields "operator" binaryOpOfData?
          let left ← Data.required? fields "left" (ofDataWithin? levels)
          let right ← Data.required? fields "right" (ofDataWithin? levels)
          let method ← Data.optional? fields "method" Method.ofData?
          let valueType ← Data.required? fields "value_type" ValueType.ofData?
          return .binary op left right method valueType
      | "Unary" =>
          let fields ← content.recordFields?
          let op ← Data.required? fields "operator" unaryOpOfData?
          let operand ← Data.required? fields "operand" (ofDataWithin? levels)
          let valueType ← Data.required? fields "value_type" ValueType.ofData?
          return .unary op operand valueType
      | "Constant" =>
          let fields ← content.recordFields?
          let value ← Data.required? fields "value" Literal.ofData?
          let valueType ← Data.required? fields "value_type" ValueType.ofData?
          return .constant value valueType
      | "Parameter" =>
          let fields ← content.recordFields?
          let name ← Data.required? fields "name" Data.text?
          let valueType ← Data.required? fields "value_type" ValueType.ofData?
          return .parameter name valueType
      | "ObjectConstruction" =>
          let fields ← content.fields? ["type_name", "members", "arguments"]
          let typeName ← Data.required? fields "type_name" Data.text?
          let members ← Data.required? fields "members" (Data.list? Data.text?)
          let arguments ← Data.required? fields "arguments"
            (Data.list? (ofDataWithin? levels))
          return .construction typeName members arguments
      | "EntityShaper" => return .shaper (← EntityRef.ofData? content)
      | "Opaque" =>
          let fields ← content.recordFields?
          let name ← Data.required? fields "name" Data.text?
          let children ← Data.required? fields "children"
            (Data.list? (ofDataWithin? levels))
          return .extension name children
      | _ => none

/-- Decode a query. -/
def ofData? (data : Data) : Option Query := ofDataWithin? data.height data

end Query

namespace Sql

/-- Decode a column. -/
def ColumnRef.ofData? (data : Data) : Option ColumnRef := do
  let fields ← data.fields? ["table_alias", "column"]
  let tableAlias ← Data.required? fields "table_alias" Data.text?
  let column ← Data.required? fields "column" Data.text?
  return { tableAlias, column }

/-- Decode an operator on two operands. -/
def BinaryOp.ofData? (data : Data) : Option BinaryOp :=
  data.variantName?.bind BinaryOp.ofName?

/-- Decode an operator on one operand that is written by its name. -/
def UnaryOp.ofData? (data : Data) : Option UnaryOp :=
  match data.variantName? with
  | some "Not" => some .not
  | some "Negate" => some .negate
  | _ => none

namespace Node

/-- Decode an expression under a header, given how its operands are decoded. -/
def expressionOfData?
    (header : Header)
    (operand? : Data → Option Node)
    (data : Data) :
    Option Node := do
  let (name, some content) ← data.variant? | none
  match name with
  | "Fragment" => return .leaf header (.fragment (← content.text?))
  | "Constant" => return .leaf header (.constant (← Literal.ofData? content))
  | "Parameter" => return .leaf header (.parameter (← content.text?))
  | "Column" => return .leaf header (.column (← ColumnRef.ofData? content))
  | "Cast" => return .apply header .cast (← operand? content)
  | "IsNull" =>
      let fields ← content.recordFields?
      let operand ← Data.required? fields "operand" operand?
      let negated ← Data.required? fields "negated" Data.boolean?
      return .apply header (.nullTest negated) operand
  | "Binary" =>
      let fields ← content.recordFields?
      let op ← Data.required? fields "operator" BinaryOp.ofData?
      let left ← Data.required? fields "left" operand?
      let right ← Data.required? fields "right" operand?
      return .combine header op left right
  | "Unary" =>
      let fields ← content.recordFields?
      let op ← Data.required? fields "operator" UnaryOp.ofData?
      let operand ← Data.required? fields "operand" operand?
      return .apply header op operand
  | "Function" =>
      let fields ← content.recordFields?
      let name ← Data.required? fields "name" Data.text?
      let arguments ← Data.required? fields "args" (Data.list? operand?)
      return .call header name arguments
  | _ => none

/-- Decode an SQL expression that nests at most `levels` deep. -/
def ofDataWithin? : (levels : Nat) → Data → Option Node
  | 0, _ => none
  | levels + 1, data => do
      let fields ← data.fields?
        ["expr", "value_type", "type_mapping", "is_condition"]
      let valueType ← Data.required? fields "value_type" ValueType.ofData?
      let mapping ← Data.optional? fields "type_mapping" TypeMapping.ofData?
      let isCondition ← Data.required? fields "is_condition" Data.boolean?
      Data.required? fields "expr"
        (expressionOfData? ⟨valueType, mapping, isCondition⟩
          (ofDataWithin? levels))

/-- Decode an SQL expression. -/
def ofData? (data : Data) : Option Node := ofDataWithin? data.height data

end Node
end Sql

namespace Property

/-- Decode a property. -/
def ofData? (data : Data) : Option Property := do
  let fields ← data.fields? ["name", "column", "value_type", "store_type"]
  let name ← Data.required? fields "name" Data.text?
  let column ← Data.required? fields "column" Data.text?
  let valueType ← Data.required? fields "value_type" ValueType.ofData?
  let storeType ← Data.optional? fields "store_type" Data.text?
  return { name, column, valueType, storeType }

end Property

namespace EntityType

/-- Decode an entity type. -/
def ofData? (data : Data) : Option EntityType := do
  let fields ← data.fields? ["name", "table", "properties"]
  let name ← Data.required? fields "name" Data.text?
  let table ← Data.required? fields "table" Data.text?
  let properties ← Data.required? fields "properties"
    (Data.list? Property.ofData?)
  return { name, table, properties }

end EntityType

namespace Settings

/-- The fields of settings, each under its name if it is present. Any number of
fields may be missing at the end of a list. -/
def fieldsOfData? : Data → Option (List (String × Data))
  | .record fields => some fields
  | .list items =>
      let names := ["dialect", "max_expression_depth", "log_client_evaluation"]
      if items.length ≤ names.length then some (names.zip items) else none
  | _ => none

/-- Decode a field, or take the standard one if it is missing. -/
def fieldOfData?
    (fields : List (String × Data))
    (name : String)
    (standard : α)
    (decode? : Data → Option α) :
    Option α :=
  match fields.lookup name with
  | some data => decode? data
  | none => some standard

/-- Decode settings, without validating them. -/
def ofData? (data : Data) : Option Settings := do
  let fields ← fieldsOfData? data
  let dialect ← fieldOfData? fields "dialect" standard.dialect fun data =>
    data.variantName?.bind Dialect.ofName?
  let maxDepth ←
    fieldOfData? fields "max_expression_depth" standard.maxDepth fun data =>
      (data.bounded? UInt32.size).map UInt32.ofNat
  let logClientEvaluation ←
    fieldOfData? fields "log_client_evaluation" standard.logClientEvaluation
      Data.boolean?
  return { dialect, maxDepth, logClientEvaluation }

end Settings
end QueryLowering
