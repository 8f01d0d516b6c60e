import QueryLowering.Binary64.Shortest
import QueryLowering.Literal
import QueryLowering.Text.Quoted
import QueryLowering.ValueType

/-!
# Type mappings

A type mapping tells how the values of one kind live in a database: under which
store type, how they compare, and how a literal of theirs is written.
-/

namespace QueryLowering

/-- How mapped values compare in the database. -/
inductive Equality
  /-- Values are equal when they are the same. -/
  | exact
  /-- Equality follows the collation of the column or database. -/
  | collated
  deriving DecidableEq

/-- The database representation of a kind of value. -/
structure TypeMapping where
  storeType : String
  kind : Kind
  equality : Equality
  trueLiteral : String
  falseLiteral : String
  deriving DecidableEq

namespace TypeMapping

/-- The mapping of a kind to a store type. Only text is compared by a collation,
and truth values are written as keywords. -/
def ofStoreType (storeType : String) (kind : Kind) : TypeMapping where
  storeType
  kind
  equality := if kind = .string then .collated else .exact
  trueLiteral := "TRUE"
  falseLiteral := "FALSE"

/-- The same mapping with other texts for the truth values. -/
def withBooleanLiterals
    (mapping : TypeMapping)
    (trueLiteral falseLiteral : String) :
    TypeMapping :=
  { mapping with trueLiteral, falseLiteral }

/-- The same mapping bound to another store type. -/
def withStoreType (mapping : TypeMapping) (storeType : String) : TypeMapping :=
  { mapping with storeType }

@[simp] theorem withStoreType_kind
    (mapping : TypeMapping)
    (storeType : String) :
    (mapping.withStoreType storeType).kind = mapping.kind := rfl

/-- Whether the mapping is one of text. -/
def isTextual (mapping : TypeMapping) : Bool := mapping.kind == .string

/-- The text of a floating-point literal: the text of the number, followed by
`.0` unless a point, an exponent mark or the word for infinity occurs in it. -/
def floatText (value : Binary64) : List Char :=
  let text := value.text
  if text.contains '.' || text.contains 'e' ||
      (String.ofList text).contains "inf" then
    text
  else text ++ ['.', '0']

/-- The SQL text of a literal, as a list of characters. -/
def literalCharacters (mapping : TypeMapping) : Literal → List Char
  | .null => "NULL".toList
  | .boolean true => mapping.trueLiteral.toList
  | .boolean false => mapping.falseLiteral.toList
  | .integer value => Text.signedDecimal value.toInt
  | .float value => floatText value
  | .decimal text => text.toList
  | .string text => Text.Quoted.write text.toList
  | .dateTime value => Text.Quoted.write value.text
  | .guid value => Text.Quoted.write value.text
  | .bytes value => '0' :: 'x' :: value.flatMap Text.upperHexByte

/-- The SQL text of a literal under a mapping. -/
def literalText (mapping : TypeMapping) (literal : Literal) : String :=
  String.ofList (mapping.literalCharacters literal)

end TypeMapping
end QueryLowering
