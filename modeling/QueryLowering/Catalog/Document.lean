import QueryLowering.Catalog.Definition
import QueryLowering.Yaml.Decode

/-!
# Documents that define entity models

A document lists the entity types under `entities`, each with a name, a table
and its properties. A property has a name and a type, and can have a column, a
store type, and be nullable.
-/

namespace QueryLowering

namespace PropertyDefinition

/-- Decode the definition of a property. -/
def ofNode (node : Yaml.Node) : Yaml.Decoder PropertyDefinition := do
  let fields ← node.fields ["name", "column", "type", "nullable", "store_type"]
  let name ← Yaml.required fields "name" Yaml.Node.text
  let column ← Yaml.optional fields "column" none Yaml.Node.optionalText
  let kind ← Yaml.required fields "type" fun node => do
    .ofOption (Kind.ofDocumentName? (← node.variantName))
  let nullable ← Yaml.optional fields "nullable" false Yaml.Node.boolean
  let storeType ← Yaml.optional fields "store_type" none Yaml.Node.optionalText
  return { name, column, kind, nullable, storeType }

end PropertyDefinition

namespace EntityDefinition

/-- Decode the definition of an entity type. -/
def ofNode (node : Yaml.Node) : Yaml.Decoder EntityDefinition := do
  let fields ← node.fields ["name", "table", "properties"]
  let name ← Yaml.required fields "name" Yaml.Node.text
  let table ← Yaml.required fields "table" Yaml.Node.text
  let properties ← Yaml.optional fields "properties" [] fun node => do
    (← node.items).mapM PropertyDefinition.ofNode
  return { name, table, properties }

end EntityDefinition

namespace ModelDefinition

/-- Decode the definition of a model. -/
def ofNode (node : Yaml.Node) : Yaml.Decoder ModelDefinition := do
  let fields ← node.fields ["entities"]
  let entities ← Yaml.required fields "entities" fun node => do
    (← node.items).mapM EntityDefinition.ofNode
  return { entities }

/-- Read the definition of a model from the text of a document. -/
def ofYaml (text : String) : Except CatalogError ModelDefinition :=
  match (Yaml.Document.ofText? text).bind (Yaml.Decoder.run? ofNode) with
  | some definition => .ok definition
  | none => .error .malformedDocument

/-- Read the definition of a model from the contents of a file, if it has
any. -/
def ofFile (contents : Option String) : Except CatalogError ModelDefinition :=
  match contents with
  | some text => ofYaml text
  | none => .error .unreadableDocument

end ModelDefinition
end QueryLowering
