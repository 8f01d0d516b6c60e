/-!
# Value types

The static type of an expression is a kind of value together with a declared
nullability. Kinds have one fixed name each, and a type is written as the name
of its kind followed by a question mark when it admits null.
-/

namespace QueryLowering

/-- The categories of values that queries compute with. `object` is the erased
type: converting to it forgets a type and is not a cast. -/
inductive Kind
  | boolean
  | int16
  | int32
  | int64
  | double
  | decimal
  | string
  | dateTime
  | guid
  | bytes
  | object
  deriving DecidableEq

namespace Kind

/-- Every kind, in declaration order. -/
def all : List Kind :=
  [.boolean, .int16, .int32, .int64, .double, .decimal, .string, .dateTime,
    .guid, .bytes, .object]

theorem mem_all (kind : Kind) : kind ∈ all := by
  cases kind <;> decide

/-- The display name of a kind. -/
def name : Kind → String
  | .boolean => "boolean"
  | .int16 => "int16"
  | .int32 => "int32"
  | .int64 => "int64"
  | .double => "double"
  | .decimal => "decimal"
  | .string => "string"
  | .dateTime => "datetime"
  | .guid => "guid"
  | .bytes => "bytes"
  | .object => "object"

/-- The name of a kind inside documents, where words are joined by
underscores. -/
def documentName : Kind → String
  | .dateTime => "date_time"
  | kind => kind.name

/-- The kind with a given display name. -/
def ofName? (text : String) : Option Kind :=
  all.find? fun kind => kind.name == text

/-- The kind with a given document name. -/
def ofDocumentName? (text : String) : Option Kind :=
  all.find? fun kind => kind.documentName == text

/-- Whether values of this kind are numbers. -/
def isNumeric : Kind → Bool
  | .int16 | .int32 | .int64 | .double | .decimal => true
  | _ => false

end Kind

/-- A kind of value and whether null is among the values. -/
structure ValueType where
  kind : Kind
  nullable : Bool
  deriving DecidableEq

namespace ValueType

/-- The type of the non-null values of one kind. -/
def nonNull (kind : Kind) : ValueType := ⟨kind, false⟩

/-- The type of the values of one kind and null. -/
def orNull (kind : Kind) : ValueType := ⟨kind, true⟩

/-- The type of truth values. -/
def boolean : ValueType := nonNull .boolean

/-- The type of text. -/
def string : ValueType := nonNull .string

/-- The erased type. -/
def object : ValueType := nonNull .object

/-- The type of points in time. -/
def dateTime : ValueType := nonNull .dateTime

/-- The type of 32-bit integers. -/
def int32 : ValueType := nonNull .int32

/-- The same kind with the given nullability. -/
def withNullability (valueType : ValueType) (nullable : Bool) : ValueType :=
  { valueType with nullable }

/-- The same kind without null. -/
def nonNullable (valueType : ValueType) : ValueType :=
  valueType.withNullability false

@[simp] theorem withNullability_kind
    (valueType : ValueType)
    (nullable : Bool) :
    (valueType.withNullability nullable).kind = valueType.kind := rfl

@[simp] theorem withNullability_nullable
    (valueType : ValueType)
    (nullable : Bool) :
    (valueType.withNullability nullable).nullable = nullable := rfl

@[simp] theorem nonNullable_kind (valueType : ValueType) :
    valueType.nonNullable.kind = valueType.kind := rfl

/-- Whether the values are text. -/
def isTextual (valueType : ValueType) : Bool := valueType.kind == .string

/-- Whether the type is the erased one. -/
def isErased (valueType : ValueType) : Bool := valueType.kind == .object

/-- Whether the values are truth values. -/
def isBoolean (valueType : ValueType) : Bool := valueType.kind == .boolean

/-- The written form: the name of the kind, and a question mark for null. -/
def text (valueType : ValueType) : String :=
  if valueType.nullable then valueType.kind.name ++ "?" else valueType.kind.name

end ValueType
end QueryLowering
