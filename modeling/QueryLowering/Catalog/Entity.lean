import QueryLowering.ValueType

/-!
# Mapped entity types

An entity type is stored in a table, and each of its properties in a column of
that table.
-/

namespace QueryLowering

/-- A property and the column that stores it. -/
structure Property where
  name : String
  column : String
  valueType : ValueType
  /-- The store type of the column, where it differs from the dialect's own. -/
  storeType : Option String
  deriving DecidableEq

/-- An entity type and the table that stores it. -/
structure EntityType where
  name : String
  table : String
  properties : List Property
  deriving DecidableEq

namespace EntityType

/-- The property with a given name. -/
def property? (entity : EntityType) (name : String) : Option Property :=
  entity.properties.find? fun property => property.name == name

end EntityType
end QueryLowering
