import QueryLowering.Catalog.Entity

/-!
# Entity models

An entity model holds the entity types that queries can name. Entity types are
inserted one by one, and an insertion fails if the name is taken or if a
property name is repeated.
-/

namespace QueryLowering

/-- Where a checked identifier stands in the definition of a model. -/
inductive IdentifierPlace
  | tableOf (entity : String)
  | columnOf (entity property : String)
  deriving DecidableEq

namespace IdentifierPlace

/-- The place in words. -/
def text : IdentifierPlace → String
  | .tableOf entity => "table of entity `" ++ entity ++ "`"
  | .columnOf entity property =>
      "column of property `" ++ entity ++ "." ++ property ++ "`"

end IdentifierPlace

/-- Why a model cannot be built, or a name not be found in it. -/
inductive CatalogError
  | entityNotFound (entity : String)
  | duplicateEntity (entity : String)
  | duplicateProperty (entity property : String)
  | invalidIdentifier (identifier : String) (place : IdentifierPlace)
  /-- The document that defines the model cannot be read. -/
  | unreadableDocument
  /-- The document that defines the model has another form. -/
  | malformedDocument
  deriving DecidableEq

namespace CatalogError

/-- The error in words. -/
def message : CatalogError → String
  | .entityNotFound entity => "No entity type found for `" ++ entity ++ "`"
  | .duplicateEntity entity =>
      "Entity `" ++ entity ++ "` is defined more than once"
  | .duplicateProperty entity property =>
      "Entity `" ++ entity ++ "` defines property `" ++ property ++
        "` more than once"
  | .invalidIdentifier identifier place =>
      "Invalid SQL identifier '" ++ identifier ++ "' in " ++ place.text
  | .unreadableDocument => "Failed to read entity model"
  | .malformedDocument => "Failed to parse entity model"

end CatalogError

/-- The first name of a list that stands earlier in it, or among those seen. -/
def firstRepeated? (seen : List String) : (names : List String) → Option String
  | [] => none
  | name :: rest =>
      if name ∈ seen then some name else firstRepeated? (name :: seen) rest

/-- The entity types that queries can name, in order of insertion. -/
structure EntityModel where
  entities : List EntityType

namespace EntityModel

/-- The model without entity types. -/
def empty : EntityModel := ⟨[]⟩

/-- The entity type with a given name. -/
def entity? (model : EntityModel) (name : String) : Option EntityType :=
  model.entities.find? fun entity => entity.name == name

/-- The entity type with a given name, or the error that there is none. -/
def entity
    (model : EntityModel)
    (name : String) :
    Except CatalogError EntityType :=
  match model.entity? name with
  | some entity => .ok entity
  | none => .error (.entityNotFound name)

/-- The property with a given name of the entity type with a given name. -/
def property?
    (model : EntityModel)
    (entityName name : String) :
    Option Property :=
  (model.entity? entityName).bind fun entity => entity.property? name

/-- Add an entity type whose name is new and whose property names are
distinct. -/
def insert
    (model : EntityModel)
    (entity : EntityType) :
    Except CatalogError EntityModel :=
  if (model.entity? entity.name).isSome then
    .error (.duplicateEntity entity.name)
  else match firstRepeated? [] (entity.properties.map Property.name) with
    | some name => .error (.duplicateProperty entity.name name)
    | none => .ok ⟨model.entities ++ [entity]⟩

/-- The model of a list of entity types, inserted in order. -/
def ofEntities (entities : List EntityType) : Except CatalogError EntityModel :=
  entities.foldlM insert empty

/-- The names of all entity types, sorted by code points. -/
def names (model : EntityModel) : List String :=
  (model.entities.map EntityType.name).mergeSort
    fun left right => decide (left ≤ right)

end EntityModel
end QueryLowering
