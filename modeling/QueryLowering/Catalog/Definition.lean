import QueryLowering.Catalog.Model
import QueryLowering.Text.Identifier

/-!
# Definitions of entity models

A definition lists entity types with their tables and properties, as a document
states them. A model is built from it in list order: within an entity type the
table is checked first, then each column, and the entity type is inserted last.
-/

namespace QueryLowering

/-- A property as a document defines it. -/
structure PropertyDefinition where
  name : String
  /-- The column, where its name differs from the property's. -/
  column : Option String
  kind : Kind
  nullable : Bool
  storeType : Option String
  deriving DecidableEq

/-- An entity type as a document defines it. -/
structure EntityDefinition where
  name : String
  table : String
  properties : List PropertyDefinition
  deriving DecidableEq

/-- An entity model as a document defines it. -/
structure ModelDefinition where
  entities : List EntityDefinition
  deriving DecidableEq

/-- Accept an identifier, or tell where the text that is none stands. -/
def checkIdentifier
    (identifier : String)
    (place : IdentifierPlace) :
    Except CatalogError Unit :=
  if Text.isIdentifier identifier.toList then .ok ()
  else .error (.invalidIdentifier identifier place)

namespace PropertyDefinition

/-- The column that stores the property. -/
def columnName (definition : PropertyDefinition) : String :=
  definition.column.getD definition.name

/-- The property as the model holds it. -/
def property (definition : PropertyDefinition) : Property where
  name := definition.name
  column := definition.columnName
  valueType := ⟨definition.kind, definition.nullable⟩
  storeType := definition.storeType

end PropertyDefinition

namespace EntityDefinition

/-- The entity type as the model holds it. -/
def entityType (definition : EntityDefinition) : EntityType where
  name := definition.name
  table := definition.table
  properties := definition.properties.map PropertyDefinition.property

/-- Accept the table and then every column of an entity type. -/
def check (definition : EntityDefinition) : Except CatalogError Unit := do
  checkIdentifier definition.table (.tableOf definition.name)
  definition.properties.forM fun property =>
    checkIdentifier property.columnName
      (.columnOf definition.name property.name)

end EntityDefinition

namespace ModelDefinition

/-- Build the model that a definition describes. -/
def build (definition : ModelDefinition) : Except CatalogError EntityModel :=
  definition.entities.foldlM (fun model entity => do
    entity.check
    model.insert entity.entityType) .empty

end ModelDefinition
end QueryLowering
