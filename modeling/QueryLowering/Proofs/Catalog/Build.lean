import Mathlib
import QueryLowering.Catalog.Definition
import QueryLowering.Proofs.Text.Identifier
import QueryLowering.Proofs.Traversal

/-!
# Models of definitions

A definition has a model exactly when it is valid, and the model then holds what
the definition says. A definition that is not valid is refused for its first
fault, in the order in which it is checked: entity types in list order, and in
each of them the table, the columns in order, the name of the entity type, and
the first name of a property that is repeated.
-/

namespace QueryLowering

/-- The member of a list with the key of a given member is that member, if keys
are not repeated. -/
theorem find?_key_eq_some
    {key : α → String}
    {members : List α}
    (distinct : (members.map key).Nodup)
    {member : α}
    (isMember : member ∈ members) :
    members.find? (fun other => key other == key member) = some member := by
  cases found : members.find? (fun other => key other == key member) with
  | none =>
      have noKey := List.find?_eq_none.1 found member isMember
      simp at noKey
  | some other =>
      have sameKey : key other = key member := by
        simpa using List.find?_some found
      rw [List.inj_on_of_nodup_map distinct (List.mem_of_find?_eq_some found)
        isMember sameKey]

/-- No name is repeated exactly when the names are distinct and none of them was
seen. -/
theorem firstRepeated?_eq_none_iff (seen names : List String) :
    firstRepeated? seen names = none ↔
      names.Nodup ∧ ∀ name, name ∈ names → name ∉ seen := by
  induction names generalizing seen with
  | nil => simp [firstRepeated?]
  | cons name rest inductionHypothesis =>
      rw [firstRepeated?]
      split
      · next isSeen => simp [isSeen]
      · next notSeen =>
          rw [inductionHypothesis, List.nodup_cons]
          grind

/-- The first repeated name stands after names of which none is repeated, and
was seen or is one of them. -/
theorem firstRepeated?_eq_some_iff
    (seen names : List String)
    (repeated : String) :
    firstRepeated? seen names = some repeated ↔
      ∃ before after, names = before ++ repeated :: after ∧
        firstRepeated? seen before = none ∧
        (repeated ∈ seen ∨ repeated ∈ before) := by
  induction names generalizing seen with
  | nil => simp [firstRepeated?]
  | cons name rest inductionHypothesis =>
      by_cases isSeen : name ∈ seen
      · simp only [firstRepeated?, if_pos isSeen, Option.some.injEq]
        constructor
        · rintro rfl
          exact ⟨[], rest, rfl, rfl, .inl isSeen⟩
        · rintro ⟨before, after, split, noneRepeated, _⟩
          cases before with
          | nil => exact (List.cons.inj split).1
          | cons first before =>
              obtain ⟨rfl, _⟩ := List.cons.inj split
              simp [firstRepeated?, isSeen] at noneRepeated
      · simp only [firstRepeated?, if_neg isSeen, inductionHypothesis]
        constructor
        · rintro ⟨before, after, rfl, noneRepeated, isRepeated⟩
          refine ⟨name :: before, after, rfl,
            by rwa [firstRepeated?, if_neg isSeen], ?_⟩
          grind
        · rintro ⟨before, after, split, noneRepeated, isRepeated⟩
          cases before with
          | nil =>
              obtain ⟨rfl, _⟩ := List.cons.inj split
              simp [isSeen] at isRepeated
          | cons first before =>
              obtain ⟨rfl, rfl⟩ := List.cons.inj split
              rw [firstRepeated?, if_neg isSeen] at noneRepeated
              exact ⟨before, after, rfl, noneRepeated, by grind⟩

theorem firstRepeated?_nil_eq_none_iff (names : List String) :
    firstRepeated? [] names = none ↔ names.Nodup := by
  simp [firstRepeated?_eq_none_iff]

theorem firstRepeated?_nil_eq_some_iff
    (names : List String)
    (repeated : String) :
    firstRepeated? [] names = some repeated ↔
      ∃ before after, names = before ++ repeated :: after ∧ before.Nodup ∧
        repeated ∈ before := by
  simp [firstRepeated?_eq_some_iff, firstRepeated?_nil_eq_none_iff]

theorem checkIdentifier_eq_ok_iff
    (identifier : String)
    (place : IdentifierPlace) :
    checkIdentifier identifier place = .ok () ↔
      identifier.toList ∈ Text.identifiers := by
  rw [checkIdentifier, Text.mem_identifiers_iff]
  split <;> simp [*]

theorem checkIdentifier_eq_error_iff
    (identifier : String)
    (place : IdentifierPlace)
    (error : CatalogError) :
    checkIdentifier identifier place = .error error ↔
      identifier.toList ∉ Text.identifiers ∧
        error = .invalidIdentifier identifier place := by
  rw [checkIdentifier, Text.mem_identifiers_iff]
  split <;> simp [*, eq_comm]

namespace EntityModel

theorem isSome_entity?_iff (model : EntityModel) (name : String) :
    (model.entity? name).isSome = true ↔
      name ∈ model.entities.map EntityType.name := by
  simp [entity?]

/-- A model takes an entity type with a new name and without repeated property
names. -/
theorem insert_eq_ok_iff (model next : EntityModel) (entity : EntityType) :
    model.insert entity = .ok next ↔
      entity.name ∉ model.entities.map EntityType.name ∧
        (entity.properties.map Property.name).Nodup ∧
        next = ⟨model.entities ++ [entity]⟩ := by
  rw [← isSome_entity?_iff, ← firstRepeated?_nil_eq_none_iff, insert]
  split
  · next taken => exact ⟨nofun, fun ⟨isNew, _⟩ => absurd taken isNew⟩
  · next isNew =>
      split
      · next name repeated => simp [repeated]
      · next distinct =>
          exact ⟨fun inserted =>
              ⟨isNew, distinct, (Except.ok.inj inserted).symm⟩,
            fun ⟨_, _, isNext⟩ => congrArg Except.ok isNext.symm⟩

/-- A model refuses an entity type for its name first, and then for the first
name of a property that stands before it already. -/
theorem insert_eq_error_iff
    (model : EntityModel)
    (entity : EntityType)
    (error : CatalogError) :
    model.insert entity = .error error ↔
      entity.name ∈ model.entities.map EntityType.name ∧
          error = .duplicateEntity entity.name ∨
        entity.name ∉ model.entities.map EntityType.name ∧
          ∃ name,
            (∃ before after,
              entity.properties.map Property.name = before ++ name :: after ∧
                before.Nodup ∧ name ∈ before) ∧
            error = .duplicateProperty entity.name name := by
  simp only [← isSome_entity?_iff, ← firstRepeated?_nil_eq_some_iff]
  rw [insert]
  split
  · next taken => simp [taken, eq_comm]
  · next isNew =>
      split
      · next name repeated => simp [isNew, repeated, eq_comm]
      · next distinct => simp [isNew, distinct]

/-- The names of a model are sorted. -/
theorem pairwise_names (model : EntityModel) :
    model.names.Pairwise (· ≤ ·) := by
  have sorted : model.names.Pairwise
      fun left right => decide (left ≤ right) = true := by
    refine List.pairwise_mergeSort ?_ ?_ _
    · simpa using fun _ _ _ => String.le_trans
    · simpa using String.le_total
  exact sorted.imp of_decide_eq_true

end EntityModel

namespace EntityDefinition

/-- The table and the columns of an entity type have identifiers for names. -/
structure HasIdentifiers (definition : EntityDefinition) : Prop where
  table : definition.table.toList ∈ Text.identifiers
  column : ∀ property, property ∈ definition.properties →
    property.columnName.toList ∈ Text.identifiers

/-- An entity type that a model can hold: no property name is repeated. -/
structure IsValid (definition : EntityDefinition) : Prop
    extends HasIdentifiers definition where
  distinct : (definition.properties.map PropertyDefinition.name).Nodup

/-- The first fault of an entity type, after entity types with the given names:
its table, a column after columns without fault, its name, or a repeated name
after distinct ones. -/
inductive FirstFault
    (taken : List String)
    (definition : EntityDefinition) :
    CatalogError → Prop
  | table :
      definition.table.toList ∉ Text.identifiers →
      FirstFault taken definition
        (.invalidIdentifier definition.table (.tableOf definition.name))
  | column {before after : List PropertyDefinition}
      {property : PropertyDefinition} :
      definition.table.toList ∈ Text.identifiers →
      definition.properties = before ++ property :: after →
      (∀ earlier, earlier ∈ before →
        earlier.columnName.toList ∈ Text.identifiers) →
      property.columnName.toList ∉ Text.identifiers →
      FirstFault taken definition
        (.invalidIdentifier property.columnName
          (.columnOf definition.name property.name))
  | entityName :
      definition.HasIdentifiers →
      definition.name ∈ taken →
      FirstFault taken definition (.duplicateEntity definition.name)
  | propertyName {before after : List PropertyDefinition}
      {property : PropertyDefinition} :
      definition.HasIdentifiers →
      definition.name ∉ taken →
      definition.properties = before ++ property :: after →
      (before.map PropertyDefinition.name).Nodup →
      property.name ∈ before.map PropertyDefinition.name →
      FirstFault taken definition
        (.duplicateProperty definition.name property.name)

variable (definition : EntityDefinition)

theorem check_eq_ok_iff :
    definition.check = .ok () ↔ definition.HasIdentifiers := by
  unfold check
  simp only [andThen_eq_ok_iff, checkIdentifier_eq_ok_iff, forM_eq_ok_iff]
  exact ⟨fun ⟨table, column⟩ => ⟨table, column⟩,
    fun ⟨table, column⟩ => ⟨table, column⟩⟩

theorem check_eq_error_iff (error : CatalogError) :
    definition.check = .error error ↔
      definition.table.toList ∉ Text.identifiers ∧
          error = .invalidIdentifier definition.table
            (.tableOf definition.name) ∨
        definition.table.toList ∈ Text.identifiers ∧
          ∃ before property after,
            definition.properties = before ++ property :: after ∧
              (∀ earlier, earlier ∈ before →
                earlier.columnName.toList ∈ Text.identifiers) ∧
              property.columnName.toList ∉ Text.identifiers ∧
              error = .invalidIdentifier property.columnName
                (.columnOf definition.name property.name) := by
  unfold check
  simp only [andThen_eq_error_iff, checkIdentifier_eq_ok_iff,
    checkIdentifier_eq_error_iff, forM_eq_error_iff]

/-- Add the entity type to a model that holds entity types defined before it. -/
def addTo (model : EntityModel) : Except CatalogError EntityModel := do
  definition.check
  model.insert definition.entityType

theorem map_name_properties_entityType :
    definition.entityType.properties.map Property.name =
      definition.properties.map PropertyDefinition.name := by
  rw [entityType, List.map_map]
  rfl

/-- A model takes a valid entity type with a new name, and puts it last. -/
theorem addTo_eq_ok_iff (model next : EntityModel) :
    definition.addTo model = .ok next ↔
      definition.IsValid ∧
        definition.name ∉ model.entities.map EntityType.name ∧
        next = ⟨model.entities ++ [definition.entityType]⟩ := by
  unfold addTo
  rw [andThen_eq_ok_iff, check_eq_ok_iff, EntityModel.insert_eq_ok_iff,
    map_name_properties_entityType]
  exact ⟨fun ⟨identifiers, isNew, distinct, isNext⟩ =>
      ⟨⟨identifiers, distinct⟩, isNew, isNext⟩,
    fun ⟨valid, isNew, isNext⟩ =>
      ⟨valid.toHasIdentifiers, isNew, valid.distinct, isNext⟩⟩

/-- A model refuses an entity type for its first fault. -/
theorem addTo_eq_error_iff (model : EntityModel) (error : CatalogError) :
    definition.addTo model = .error error ↔
      definition.FirstFault (model.entities.map EntityType.name) error := by
  unfold addTo
  rw [andThen_eq_error_iff, check_eq_ok_iff, check_eq_error_iff,
    EntityModel.insert_eq_error_iff, map_name_properties_entityType]
  constructor
  · rintro ((⟨table, rfl⟩ |
        ⟨table, before, property, after, split, columns, column, rfl⟩) |
      ⟨identifiers, ⟨taken, rfl⟩ |
        ⟨isNew, name, ⟨before, after, split, distinct, repeated⟩, rfl⟩⟩)
    · exact .table table
    · exact .column table split columns column
    · exact .entityName identifiers taken
    · obtain ⟨first, second, parts, rfl, others⟩ :=
        List.map_eq_append_iff.1 split
      obtain ⟨property, rest, rfl, rfl, _⟩ := List.map_eq_cons_iff.1 others
      exact .propertyName identifiers isNew parts distinct repeated
  · rintro (table | ⟨table, split, columns, column⟩ | ⟨identifiers, taken⟩ |
      ⟨identifiers, isNew, split, distinct, repeated⟩)
    · exact .inl (.inl ⟨table, rfl⟩)
    · exact .inl (.inr ⟨table, _, _, _, split, columns, column, rfl⟩)
    · exact .inr ⟨identifiers, .inl ⟨taken, rfl⟩⟩
    · have splitNames := congrArg (List.map PropertyDefinition.name) split
      rw [List.map_append, List.map_cons] at splitNames
      exact .inr ⟨identifiers,
        .inr ⟨isNew, _, ⟨_, _, splitNames, distinct, repeated⟩, rfl⟩⟩

end EntityDefinition

namespace ModelDefinition

/-- A definition of which a model can be built: its entity types are valid, and
no name of an entity type is repeated. -/
structure IsValid (definition : ModelDefinition) : Prop where
  entity : ∀ entity, entity ∈ definition.entities → entity.IsValid
  distinct : (definition.entities.map EntityDefinition.name).Nodup

/-- The first fault of a definition is that of an entity type after entity types
without fault. -/
def FirstFault (definition : ModelDefinition) (error : CatalogError) : Prop :=
  ∃ before entity after, definition.entities = before ++ entity :: after ∧
    (ModelDefinition.mk before).IsValid ∧
    entity.FirstFault (before.map EntityDefinition.name) error

variable (definition : ModelDefinition)

theorem build_eq_foldlM :
    definition.build =
      definition.entities.foldlM (fun model entity => entity.addTo model)
        .empty :=
  rfl

/-- The names of the entity types of a model are those that the definition gives
them. -/
theorem map_name_entityType (entities : List EntityDefinition) :
    (entities.map EntityDefinition.entityType).map EntityType.name =
      entities.map EntityDefinition.name := by
  rw [List.map_map]
  rfl

/-- A definition is valid when all but the last entity type make a valid one,
and the last is valid and has another name. -/
theorem isValid_append_singleton_iff
    (entities : List EntityDefinition)
    (last : EntityDefinition) :
    (ModelDefinition.mk (entities ++ [last])).IsValid ↔
      (ModelDefinition.mk entities).IsValid ∧ last.IsValid ∧
        last.name ∉ entities.map EntityDefinition.name := by
  constructor
  · rintro ⟨entity, distinct⟩
    obtain ⟨entityBefore, entityLast⟩ := List.forall_mem_append.1 entity
    rw [List.map_append, List.nodup_append'] at distinct
    exact ⟨⟨entityBefore, distinct.1⟩,
      entityLast last (List.mem_singleton_self last),
      List.disjoint_singleton.1 distinct.2.2⟩
  · rintro ⟨⟨entityBefore, distinct⟩, entityLast, isNew⟩
    refine ⟨List.forall_mem_append.2 ⟨entityBefore, by simpa using entityLast⟩,
      ?_⟩
    rw [List.map_append, List.nodup_append']
    exact ⟨distinct, List.nodup_singleton _, List.disjoint_singleton.2 isNew⟩

/-- A valid definition has a model, with its entity types in order. -/
theorem build_eq_ok_iff (model : EntityModel) :
    definition.build = .ok model ↔
      definition.IsValid ∧
        model = ⟨definition.entities.map EntityDefinition.entityType⟩ := by
  obtain ⟨entities⟩ := definition
  rw [build_eq_foldlM]
  induction entities using List.reverseRecOn generalizing model with
  | nil =>
      have isValid : (ModelDefinition.mk []).IsValid :=
        ⟨List.forall_mem_nil _, List.nodup_nil⟩
      constructor
      · rintro ⟨⟩
        exact ⟨isValid, rfl⟩
      · rintro ⟨_, rfl⟩
        rfl
  | append_singleton entities last inductionHypothesis =>
      rw [List.foldlM_append, bind_eq_ok_iff, isValid_append_singleton_iff]
      constructor
      · rintro ⟨before, isBefore, added⟩
        obtain ⟨validBefore, rfl⟩ := (inductionHypothesis before).1 isBefore
        rw [List.foldlM_cons, bind_eq_ok_iff] at added
        obtain ⟨_, added, ⟨⟩⟩ := added
        obtain ⟨validLast, isNew, rfl⟩ := (last.addTo_eq_ok_iff _ _).1 added
        rw [map_name_entityType] at isNew
        exact ⟨⟨validBefore, validLast, isNew⟩, by rw [List.map_append]; rfl⟩
      · rintro ⟨⟨validBefore, validLast, isNew⟩, rfl⟩
        refine ⟨_, (inductionHypothesis _).2 ⟨validBefore, rfl⟩, ?_⟩
        rw [List.foldlM_cons, bind_eq_ok_iff]
        refine ⟨_, (last.addTo_eq_ok_iff _ _).2 ⟨validLast, ?_, ?_⟩, rfl⟩
        · rwa [map_name_entityType]
        · rw [List.map_append]
          rfl

/-- A definition has no model because of its first fault. -/
theorem build_eq_error_iff (error : CatalogError) :
    definition.build = .error error ↔ definition.FirstFault error := by
  rw [build_eq_foldlM, foldlM_eq_error_iff]
  constructor
  · rintro ⟨before, entity, after, reached, split, isReached, fails⟩
    obtain ⟨validBefore, rfl⟩ := (build_eq_ok_iff ⟨before⟩ reached).1 isReached
    rw [EntityDefinition.addTo_eq_error_iff, map_name_entityType] at fails
    exact ⟨before, entity, after, split, validBefore, fails⟩
  · rintro ⟨before, entity, after, split, validBefore, fault⟩
    refine ⟨before, entity, after, _, split,
      (build_eq_ok_iff ⟨before⟩ _).2 ⟨validBefore, rfl⟩, ?_⟩
    rwa [EntityDefinition.addTo_eq_error_iff, map_name_entityType]

/-- A model holds every entity type of its definition under the name of the
entity type. -/
theorem entity?_of_build
    {definition : ModelDefinition}
    {model : EntityModel}
    (built : definition.build = .ok model)
    {entity : EntityDefinition}
    (isEntity : entity ∈ definition.entities) :
    model.entity? entity.name = some entity.entityType := by
  obtain ⟨valid, rfl⟩ := (build_eq_ok_iff definition model).1 built
  have distinct := valid.distinct
  rw [← map_name_entityType] at distinct
  exact find?_key_eq_some distinct (List.mem_map_of_mem isEntity)

/-- An entity type of a model holds every property of its definition under the
name of the property. -/
theorem property?_of_build
    {definition : ModelDefinition}
    {model : EntityModel}
    (built : definition.build = .ok model)
    {entity : EntityDefinition}
    (isEntity : entity ∈ definition.entities)
    {property : PropertyDefinition}
    (isProperty : property ∈ entity.properties) :
    entity.entityType.property? property.name = some property.property := by
  have valid :=
    ((build_eq_ok_iff definition model).1 built).1.entity entity isEntity
  have distinct := valid.distinct
  rw [← EntityDefinition.map_name_properties_entityType] at distinct
  exact find?_key_eq_some distinct (List.mem_map_of_mem isProperty)

/-- Building succeeds exactly for valid definitions: all names of tables and
columns are identifiers, where a column without a name has that of its property;
no name of an entity type is repeated, and no property name within one. The
names of the model are those of the definition, sorted, and under each of them
the model holds the table and the properties as defined, in order, and each
property under its name. Any other definition is refused for its first fault. -/
theorem build_accepts_exactly_valid (definition : ModelDefinition) :
    let stored := fun property : PropertyDefinition =>
      Property.mk property.name (property.column.getD property.name)
        ⟨property.kind, property.nullable⟩ property.storeType
    ((∃ model, definition.build = .ok model) ↔ definition.IsValid) ∧
    (∀ model, definition.build = .ok model →
      model.names.Perm (definition.entities.map EntityDefinition.name) ∧
      model.names.Pairwise (· ≤ ·) ∧
      ∀ entity, entity ∈ definition.entities →
        model.entity? entity.name =
          some ⟨entity.name, entity.table, entity.properties.map stored⟩ ∧
        ∀ property, property ∈ entity.properties →
          model.property? entity.name property.name = some (stored property)) ∧
    ∀ error, definition.build = .error error ↔ definition.FirstFault error := by
  intro stored
  refine ⟨?_, ?_, build_eq_error_iff definition⟩
  · simp [build_eq_ok_iff]
  · intro model built
    have sameNames : model.entities.map EntityType.name =
        definition.entities.map EntityDefinition.name := by
      rw [((build_eq_ok_iff definition model).1 built).2, map_name_entityType]
    refine ⟨?_, model.pairwise_names, ?_⟩
    · rw [← sameNames]
      exact List.mergeSort_perm _ _
    · intro entity isEntity
      have found := entity?_of_build built isEntity
      refine ⟨found, fun property isProperty => ?_⟩
      rw [EntityModel.property?, found]
      exact property?_of_build built isEntity isProperty

/-- Two entity types out of order, one with a qualified table. With a further
entity type that has a fault in its second column and a name that is taken, the
column is reported. -/
theorem build_accepts_exactly_valid_pair :
    let id : PropertyDefinition := ⟨"Id", none, .int32, false, none⟩
    let name : PropertyDefinition :=
      ⟨"Name", some "full_name", .string, true, some "varchar(9)"⟩
    let customer : EntityDefinition :=
      ⟨"Customer", "sales.customers", [id, name]⟩
    let account : EntityDefinition := ⟨"Account", "_accounts", [id]⟩
    let broken : PropertyDefinition :=
      ⟨"Note", some "a.b.c", .string, false, none⟩
    let again : EntityDefinition := ⟨"Customer", "others", [id, broken, id]⟩
    (∃ model, (ModelDefinition.mk [customer, account]).build = .ok model ∧
      model.names = ["Account", "Customer"] ∧
      model.property? "Customer" "Name" =
        some ⟨"Name", "full_name", .orNull .string, some "varchar(9)"⟩ ∧
      model.property? "Account" "Id" = some ⟨"Id", "Id", .int32, none⟩) ∧
    (ModelDefinition.mk [customer, account, again]).FirstFault
      (.invalidIdentifier "a.b.c" (.columnOf "Customer" "Note")) := by
  intro id name customer account broken again
  let model : EntityModel := ⟨[customer.entityType, account.entityType]⟩
  have built : (ModelDefinition.mk [customer, account]).build = .ok model := by
    cbv
  have refused : (ModelDefinition.mk [customer, account, again]).build =
      .error (.invalidIdentifier "a.b.c" (.columnOf "Customer" "Note")) := by
    cbv
  obtain ⟨_, holds, _⟩ :=
    build_accepts_exactly_valid (ModelDefinition.mk [customer, account])
  obtain ⟨names, sorted, each⟩ := holds model built
  have sameNames : model.names = ["Account", "Customer"] :=
    (names.trans (.swap "Account" "Customer" [])).eq_of_pairwise
      (fun _ _ _ _ => String.le_antisymm) sorted (by decide)
  refine ⟨⟨model, built, sameNames, ?_, ?_⟩, ?_⟩
  · exact (each customer (by simp)).2 name (by simp [customer])
  · exact (each account (by simp)).2 id (by simp [account])
  · exact ((build_accepts_exactly_valid _).2.2 _).1 refused

end ModelDefinition
end QueryLowering
