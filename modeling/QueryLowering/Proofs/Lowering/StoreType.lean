import QueryLowering.Proofs.Catalog.Build
import QueryLowering.Proofs.Lowering.Agreement
import QueryLowering.Proofs.Select.Aliases
import QueryLowering.Proofs.Sql.WellMapped

/-!
# Store types from the definition to the column

A property of a definition is a property of the model that is built from it.
Read from the buffer of a table of its entity type, it is lowered to the column
that stores it, in that table. The mapping of the column is the dialect's own
for the kind of the property, bound to the store type that the property
declares. The erased kind has no mapping that could be bound, so that a property
of this kind has no mapping either, whatever it declares.
-/

namespace QueryLowering

namespace Select

variable {select : Select}

/-- The buffer of a new table leads to the table. -/
theorem Reachable.tableFor?_addTable
    (reachable : select.Reachable)
    (few : select.tables.length < UInt32.size)
    (entity : EntityType) :
    (select.addTable entity).1.tableFor? (select.addTable entity).2.buffer =
      some (select.addTable entity).2 := by
  refine (reachable.addTable entity).tableFor?_eq ?_ List.getElem?_concat_length
  simp only [Select.addTable, List.length_append, List.length_singleton]
  exact Nat.succ_le_of_lt few

/-- Inference by the source that a bound column has its mapping from leaves the
column as it is. -/
theorem infer_columnNode
    (select : Select)
    (column : Sql.ColumnRef)
    (property : Property) :
    (select.columnNode column property).infer select.mappings =
      select.columnNode column property := by
  cases found : select.mappings.find property.valueType <;>
    simp [columnNode, propertyMapping, Sql.Node.column, Sql.Header.resolve,
      found]

/-- The mapping of a property in a context of a dialect. -/
theorem propertyMapping_definition
    {dialect : Dialect}
    (ofDialect : select.mappings = dialect.mappings)
    (property : PropertyDefinition) :
    select.propertyMapping property.property =
      (dialect.mapping? property.kind).map fun mapping =>
        property.storeType.elim mapping mapping.withStoreType := by
  rw [propertyMapping, ofDialect]
  cases declared : property.storeType <;>
    simp [Dialect.mappings, PropertyDefinition.property, declared]

end Select

namespace Lowerer

variable {lowerer : Lowerer} {select : Select}

/-- A property that the model has, read from the buffer of a table, is lowered
to its column in that table. -/
theorem lower_member_of_entity
    (sameMappings : select.mappings = lowerer.mappings)
    (deepEnough : 2 ≤ lowerer.settings.maxDepth.toNat)
    {entity : EntityRef}
    {entityType : EntityType}
    (isEntity : lowerer.model.entity? entity.entityType = some entityType)
    {table : TableSource}
    (isTable : select.tableFor? entity.buffer = some table)
    (member : Member)
    {property : Property}
    (isProperty : entityType.property? member.name = some property) :
    (lowerer.lower select (.access (some (.shaper entity)) member) false).1 =
      .ok (.sql
        (select.columnNode ⟨table.tableAlias, property.column⟩ property)) := by
  have shallow : (Query.access (some (.shaper entity)) member).depth ≤
      lowerer.settings.maxDepth.toNat := by
    rw [Query.depth_eq_height]
    exact deepEnough
  rw [lower_of_shallow lowerer select false shallow, visit_member_of_entity]
  simp [bindProperty, isEntity, isProperty, Select.columnRef, isTable,
    Except.map, finish, ← sameMappings, Select.infer_columnNode]

variable (lowerer select)

/-- A property of a definition is lowered to its column, with the store type
that it declares unless it is of the erased kind. From any built definition and
dialect, and in any context after the table of the entity type is added, the
access of the property on the new buffer gives a column of that table, with the
column name and type of the property. Without a declared store type the mapping
of the column is the dialect's own for the kind. A declared store type takes the
place of the one in the dialect's mapping, and so becomes that of the column
exactly if there is a mapping to put it into: a property of the erased kind has
none. -/
theorem lower_member_storeType
    {definition : ModelDefinition}
    (built : definition.build = .ok lowerer.model)
    {dialect : Dialect}
    (ofDialect : lowerer.mappings = dialect.mappings)
    (sameMappings : select.mappings = lowerer.mappings)
    (deepEnough : 2 ≤ lowerer.settings.maxDepth.toNat)
    (reachable : select.Reachable)
    (few : select.tables.length < UInt32.size)
    {entity : EntityDefinition}
    (isEntity : entity ∈ definition.entities)
    {property : PropertyDefinition}
    (isProperty : property ∈ entity.properties)
    (declaringType valueType : ValueType) :
    ∃ entityType mapping,
      lowerer.model.entity? entity.name = some entityType ∧
      (let added := select.addTable entityType
      let shaper := Query.shaper ⟨entity.name, added.2.buffer⟩
      let access :=
        Query.access (some shaper) ⟨declaringType, property.name, valueType⟩
      (lowerer.lower added.1 access false).1 =
        .ok (.sql (.leaf ⟨⟨property.kind, property.nullable⟩, mapping, false⟩
          (.column
            ⟨added.2.tableAlias, property.column.getD property.name⟩)))) ∧
      (property.storeType = none → mapping = dialect.mapping? property.kind) ∧
      (∀ declared, property.storeType = some declared →
        mapping =
          (dialect.mapping? property.kind).map (·.withStoreType declared) ∧
        (mapping.map TypeMapping.storeType = some declared ↔
          property.kind ≠ .object)) ∧
      (mapping = none ↔ property.kind = .object) := by
  have found := ModelDefinition.entity?_of_build built isEntity
  have foundProperty :=
    ModelDefinition.property?_of_build built isEntity isProperty
  have mapped :=
    Select.propertyMapping_definition (sameMappings.trans ofDialect) property
  refine ⟨entity.entityType, select.propertyMapping property.property, found,
    ?lowered, ?own, ?declared, ?erased⟩
  case lowered =>
    have sameAfter : (select.addTable entity.entityType).1.mappings =
        lowerer.mappings :=
      sameMappings
    exact lower_member_of_entity sameAfter deepEnough found
      (reachable.tableFor?_addTable few entity.entityType)
      ⟨declaringType, property.name, valueType⟩ foundProperty
  case own =>
    intro undeclared
    simp [mapped, undeclared]
  case declared =>
    intro declared isDeclared
    refine ⟨by simp [mapped, isDeclared], ?_⟩
    rw [← not_iff_not, not_not, ← dialect.mapping?_eq_none_iff]
    cases own : dialect.mapping? property.kind <;>
      simp [mapped, isDeclared, own, TypeMapping.withStoreType]
  case erased =>
    rw [mapped, Option.map_eq_none_iff, dialect.mapping?_eq_none_iff]

/-- A text that declares its store type has this store type in the column. -/
theorem lower_member_storeType_text :
    let name : PropertyDefinition :=
      ⟨"Name", some "full_name", .string, true, some "varchar(50)"⟩
    let customer : EntityDefinition := ⟨"Customer", "sales.customers", [name]⟩
    let model : EntityModel := ⟨[customer.entityType]⟩
    let source := Dialect.sqlServer.mappings
    let lowerer :=
      withBuiltInRules model source { Settings.standard with maxDepth := 2 }
    let select := ((Select.empty source).addTable customer.entityType).1
    let access :=
      Query.access (some (.shaper ⟨"Customer", ⟨0⟩⟩)) ⟨.object, "Name", .string⟩
    let stored := TypeMapping.ofStoreType "varchar(50)" .string
    (ModelDefinition.mk [customer]).build = .ok model ∧
      (lowerer.lower select access false).1 =
        .ok (.sql (.leaf ⟨.orNull .string, some stored, false⟩
          (.column ⟨"c", "full_name"⟩))) := by
  intro name customer model source lowerer select access stored
  have built : (ModelDefinition.mk [customer]).build = .ok model := by cbv
  have isEntity : customer ∈ (ModelDefinition.mk [customer]).entities :=
    List.mem_singleton_self _
  have isProperty : name ∈ customer.properties := List.mem_singleton_self _
  obtain ⟨entityType, mapping, found, lowered, _, declares, _⟩ :=
    lower_member_storeType lowerer (.empty source) built rfl rfl (by decide)
      (.empty source) (by decide) isEntity isProperty .object .string
  obtain rfl : customer.entityType = entityType := Option.some.inj found
  obtain ⟨rfl, _⟩ := declares "varchar(50)" rfl
  have sameAlias :
      ((Select.empty source).addTable customer.entityType).2.tableAlias =
        "c" := by
    decide
  refine ⟨built, ?_⟩
  rw [← sameAlias]
  exact lowered

/-- A property of the erased kind loses the store type that it declares. -/
theorem lower_member_storeType_erased :
    let payload : PropertyDefinition :=
      ⟨"Payload", some "payload", .object, false, some "jsonb"⟩
    let event : EntityDefinition := ⟨"Event", "events", [payload]⟩
    let model : EntityModel := ⟨[event.entityType]⟩
    let source := Dialect.postgres.mappings
    let lowerer := withBuiltInRules model source Settings.standard
    let select := ((Select.empty source).addTable event.entityType).1
    let access :=
      Query.access (some (.shaper ⟨"Event", ⟨0⟩⟩)) ⟨.object, "Payload", .object⟩
    (ModelDefinition.mk [event]).build = .ok model ∧
      (lowerer.lower select access false).1 =
        .ok (.sql (.leaf ⟨.object, none, false⟩ (.column ⟨"e", "payload"⟩))) ∧
      ∀ mapping : TypeMapping, mapping.storeType = "jsonb" →
        (lowerer.lower select access false).1 ≠
          .ok (.sql (.leaf ⟨.object, some mapping, false⟩
            (.column ⟨"e", "payload"⟩))) := by
  intro payload event model source lowerer select access
  have lowered : (lowerer.lower select access false).1 =
      .ok (.sql (.leaf ⟨.object, none, false⟩ (.column ⟨"e", "payload"⟩))) := by
    cbv
  refine ⟨by cbv, lowered, fun mapping _ mapped => ?_⟩
  rw [lowered] at mapped
  cases mapped

end Lowerer
end QueryLowering
