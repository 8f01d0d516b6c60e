import QueryLowering.Proofs.Lowering.Agreement
import QueryLowering.Proofs.Lowering.Columns
import QueryLowering.Proofs.Lowering.Invariant

/-!
# Columns and the tables that qualify them

A shaper names an entity type and a value buffer. The entity type decides which
column stores a property, and the buffer decides which table qualifies the
column. The two are looked up apart from each other: the entity type that a
table was added for is kept with the table and not consulted. So columns belong
to the tables that qualify them where the shapers of a query name the entity
types of these tables, and a shaper that names another entity type is bound all
the same.
-/

namespace QueryLowering

/-- The entity type of that name defines a property that is stored in the
column. -/
def EntityModel.Stores
    (model : EntityModel)
    (entityType column : String) : Prop :=
  ∃ entity property, model.entity? entityType = some entity ∧
    property ∈ entity.properties ∧ property.column = column

/-- Shapers name the entity types of the tables behind their buffers. -/
def Query.NamesTables (select : Select) : Query → Prop
  | .shaper entity => ∀ table, select.tableFor? entity.buffer = some table →
      table.entityType = entity.entityType
  | _ => True

namespace Select

/-- The column can be read from the entity: the entity type stores a property in
it, and the table behind the buffer has the alias. -/
def Reads
    (model : EntityModel)
    (select : Select)
    (entity : EntityRef)
    (column : Sql.ColumnRef) :
    Prop :=
  model.Stores entity.entityType column.column ∧
    ∃ table, select.tableFor? entity.buffer = some table ∧
      table.tableAlias = column.tableAlias

theorem columnRef_eq_ok_iff
    (select : Select)
    (buffer : ValueBuffer)
    (property : Property)
    (column : Sql.ColumnRef) :
    select.columnRef buffer property = .ok column ↔
      ∃ table, select.tableFor? buffer = some table ∧
        ⟨table.tableAlias, property.column⟩ = column := by
  unfold columnRef
  cases select.tableFor? buffer <;> simp

theorem mem_tables_of_tableFor?
    {select : Select}
    {buffer : ValueBuffer}
    {table : TableSource}
    (known : select.tableFor? buffer = some table) :
    table ∈ select.tables :=
  List.mem_of_find?_eq_some known

/-- The context with other entity types noted for its tables. -/
def relabel (select : Select) (entityTypeOf : TableSource → String) : Select :=
  { select with
    tables := select.tables.map
      fun table => { table with entityType := entityTypeOf table } }

theorem tableFor?_relabel
    (select : Select)
    (entityTypeOf : TableSource → String)
    (buffer : ValueBuffer) :
    (select.relabel entityTypeOf).tableFor? buffer =
      (select.tableFor? buffer).map fun table =>
        { table with entityType := entityTypeOf table } := by
  rw [tableFor?, relabel, List.find?_map]
  rfl

/-- The column of a property does not depend on the entity types noted for
tables. -/
@[simp] theorem columnRef_relabel
    (select : Select)
    (entityTypeOf : TableSource → String)
    (buffer : ValueBuffer)
    (property : Property) :
    (select.relabel entityTypeOf).columnRef buffer property =
      select.columnRef buffer property := by
  rw [columnRef, columnRef, tableFor?_relabel]
  cases select.tableFor? buffer <;> rfl

end Select

namespace Lowered

/-- A column of a result stands in an expression of the result. -/
theorem exists_sql_of_mem_columns
    {result : Lowered}
    {column : Sql.ColumnRef}
    (member : column ∈ result.columns) :
    ∃ node, (Lowered.sql node).PartOf result ∧ column ∈ node.columns := by
  induction result using induct with
  | sql node => exact ⟨node, .self, by simpa using member⟩
  | convert operand target inductionHypothesis =>
      obtain ⟨node, partOfOperand, inNode⟩ :=
        inductionHypothesis (by simpa using member)
      exact ⟨node, .ofChild (by simp [children]) partOfOperand, inNode⟩
  | projection fields inductionHypothesis =>
      rw [columns_projection] at member
      obtain ⟨field, inFields, inField⟩ := List.mem_flatMap.1 member
      obtain ⟨node, partOfField, inNode⟩ :=
        inductionHypothesis field inFields inField
      exact ⟨node, .ofChild (List.mem_map_of_mem inFields) partOfField, inNode⟩
  | extension name children inductionHypothesis =>
      rw [columns_extension] at member
      obtain ⟨child, inChildren, inChild⟩ := List.mem_flatMap.1 member
      obtain ⟨node, partOfChild, inNode⟩ :=
        inductionHypothesis child inChildren inChild
      exact ⟨node, .ofChild inChildren partOfChild, inNode⟩
  | shaper entity => simp [columns] at member
  | unsupported => simp [columns] at member

end Lowered

namespace Lowerer

variable (lowerer : Lowerer) (select : Select)

/-- A bound column can be read from the entity that it is bound for. -/
theorem reads_of_bindProperty
    {entity : EntityRef}
    {name : String}
    {node : Sql.Node}
    (bound : (lowerer.bindProperty select entity name).result =
      .ok (.sql node)) :
    ∀ column, column ∈ node.columns →
      select.Reads lowerer.model entity column := by
  obtain ⟨entityType, property, column, entityKnown, propertyKnown,
      columnKnown, isColumn⟩ :=
    (lowerer.result_bindProperty_eq_ok_iff select entity name _).1 bound
  obtain rfl := Lowered.sql.inj isColumn
  obtain ⟨table, tableKnown, rfl⟩ :=
    (select.columnRef_eq_ok_iff _ _ _).1 columnKnown
  intro used isUsed
  obtain rfl : used = ⟨table.tableAlias, property.column⟩ := by
    simpa [Select.columnNode, Sql.Node.column, Sql.Atom.columns] using isUsed
  exact ⟨⟨entityType, property, entityKnown,
      List.mem_of_find?_eq_some propertyKnown, rfl⟩, table, tableKnown, rfl⟩

/-- Expressions have no columns but those that may be read, if all that can be
read from the shapers of the query may be. -/
theorem columns_invariant (mayRead : Sql.ColumnRef → Prop) :
    lowerer.NodeInvariant select
      (fun query => ∀ entity, query = .shaper entity →
        ∀ column, select.Reads lowerer.model entity column → mayRead column)
      (fun node => ∀ column, column ∈ node.columns → mayRead column) where
  constant value valueType := by simp [Sql.Node.constant, Sql.Atom.columns]
  parameter name valueType := by simp [Sql.Node.parameter, Sql.Atom.columns]
  fragment sql valueType := by simp [Sql.Node.fragment, Sql.Atom.columns]
  bound entity name node permitted bound column inNode :=
    permitted entity rfl column
      (lowerer.reads_of_bindProperty select bound column inNode)
  nonNullable inner member node _ _ fromShapers := by simpa using fromShapers
  inferred node fromShapers := by simpa using fromShapers
  nullTest operand negated fromShapers := by
    simpa [Sql.Node.nullTest] using fromShapers
  comparison op left right _ leftFromShapers rightFromShapers := by
    simpa [Sql.Node.binary, or_imp, forall_and]
      using ⟨leftFromShapers, rightFromShapers⟩
  combination op left right method valueType leftNode rightNode _ _
    leftFromShapers rightFromShapers := by
    simpa [Sql.Node.binary, or_imp, forall_and]
      using ⟨leftFromShapers, rightFromShapers⟩
  junction op left right method valueType leftNode rightNode _ _ leftFromShapers
      rightFromShapers := by
    simpa [Sql.Node.binary, or_imp, forall_and]
      using ⟨leftFromShapers, rightFromShapers⟩
  concatenation left right node leftFromShapers rightFromShapers
    concatenated := by
    obtain ⟨mapping, _, rfl⟩ :=
      (Lowering.concatenation_eq_ok_iff _ _ _ _).1 concatenated
    simpa [Sql.Node.binary, or_imp, forall_and]
      using ⟨leftFromShapers, rightFromShapers⟩
  cast operand valueType _ fromShapers := by
    simpa [Sql.Node.cast] using fromShapers
  not operand valueType node _ fromShapers := by
    simpa [Sql.Node.not] using fromShapers
  negate operand valueType fromShapers := by
    simpa [Sql.Node.negate] using fromShapers
  function name arguments valueType argumentsHold _ column inCall := by
    rw [Sql.Node.columns_infer, Sql.Node.function,
      Sql.Node.columns_call] at inCall
    obtain ⟨argument, inArguments, inArgument⟩ := List.mem_flatMap.1 inCall
    rcases argumentsHold argument inArguments with
      fromShapers | ⟨start, fromShapers, rfl⟩
    · exact fromShapers column inArgument
    · -- the number that is added to an argument has no columns
      refine fromShapers column ?_
      simpa [Sql.Node.binary, Rule.integerNode, Sql.Node.constant,
        Sql.Atom.columns] using inArgument

/-- With the built-in rules, every column of a result can be read from a shaper
of the query. -/
theorem exists_shaper_of_mem_columns
    (builtIn : lowerer.HasBuiltInRules)
    {query : Query}
    {result : Lowered}
    {column : Sql.ColumnRef}
    (lowered : lowerer.Lowers select query result)
    (member : column ∈ result.columns) :
    ∃ entity, (Query.shaper entity).PartOf query ∧
      select.Reads lowerer.model entity column := by
  let mayRead : Sql.ColumnRef → Prop := fun column =>
    ∃ entity, (Query.shaper entity).PartOf query ∧
      select.Reads lowerer.model entity column
  have everywhere :=
    (lowerer.columns_invariant select mayRead).everywhere builtIn
      (fun part partOfQuery entity isShaper column reads =>
        ⟨entity, isShaper ▸ partOfQuery, reads⟩) lowered
  obtain ⟨node, partOfResult, inNode⟩ :=
    Lowered.exists_sql_of_mem_columns member
  exact everywhere _ partOfResult column inNode

/-- Lowering does not consult the entity types noted for tables. -/
theorem agreesWith_relabel (entityTypeOf : TableSource → String) :
    lowerer.AgreesWith lowerer (select.relabel entityTypeOf) select where
  mappings := rfl
  bound entity name := by
    simp only [bindProperty, Select.columnRef_relabel]
    rfl
  members _ _ := rfl
  calls _ := rfl

/-- The entity types noted for tables make no difference to the result or error
of a query. -/
theorem lower_relabel
    (entityTypeOf : TableSource → String)
    (query : Query)
    (requireCondition : Bool) :
    (lowerer.lower (select.relabel entityTypeOf) query requireCondition).1 =
      (lowerer.lower select query requireCondition).1 :=
  (lowerer.agreesWith_relabel select entityTypeOf).result_lower_eq rfl
    (Query.Respelled.refl query) requireCondition

/-- With the built-in rules, every column of a result is read from a shaper of
the query: it has the alias of the table behind the buffer, and the entity type
that the shaper names stores a property in it. So where every shaper names the
entity type of the table behind its buffer, the context has a table with the
alias whose entity type stores a property in the column. Where a shaper names
another entity type, this is no error: the result is the same, whatever the
entity types of the tables are. -/
theorem lower_qualifiesColumns
    (model : EntityModel)
    (source : MappingSource)
    (settings : Settings)
    (select : Select)
    (query : Query)
    (requireCondition : Bool)
    (result : Lowered)
    (lowered : ((withBuiltInRules model source settings).lower
      select query requireCondition).1 = .ok result) :
    (∀ column, column ∈ result.columns →
      ∃ entity, (Query.shaper entity).PartOf query ∧
        select.Reads model entity column) ∧
    (query.Everywhere (Query.NamesTables select) →
      ∀ column, column ∈ result.columns →
      ∃ table, table ∈ select.tables ∧ table.tableAlias = column.tableAlias ∧
        model.Stores table.entityType column.column) ∧
    (∀ entityTypeOf, ((withBuiltInRules model source settings).lower
      (select.relabel entityTypeOf) query requireCondition).1 =
      .ok result) := by
  obtain ⟨_, raw, given, rfl⟩ := (lower_eq_ok_iff _ _ _ _ _).1 lowered
  have fromShaper : ∀ column, column ∈ raw.columns →
      ∃ entity, (Query.shaper entity).PartOf query ∧
        select.Reads model entity column :=
    fun _ => exists_shaper_of_mem_columns _ select
      (hasBuiltInRules_withBuiltInRules model source settings) given
  rw [columns_finish]
  refine ⟨fromShaper, ?_, ?_⟩
  · intro named column member
    obtain ⟨entity, partOfQuery, stored, table, known, sameAlias⟩ :=
      fromShaper column member
    have sameType : table.entityType = entity.entityType :=
      named _ partOfQuery table known
    exact ⟨table, Select.mem_tables_of_tableFor? known, sameAlias,
      sameType ▸ stored⟩
  · intro entityTypeOf
    rw [lower_relabel, lowered]

/-- Where a table is added twice, each column has the alias of its own buffer,
and it keeps the alias if the tables are noted as those of another entity
type. -/
theorem lower_qualifiesColumns_pair :
    let name : Property := ⟨"Name", "name", .string, none⟩
    let customer : EntityType := ⟨"Customer", "customers", [name]⟩
    let model : EntityModel := ⟨[customer]⟩
    let select : Select := ⟨Dialect.ansi.mappings,
      [⟨"c", "customers", "Customer", ⟨0⟩⟩,
        ⟨"c0", "customers", "Customer", ⟨1⟩⟩], []⟩
    let read := fun buffer : ValueBuffer =>
      Query.access (some (.shaper ⟨"Customer", buffer⟩))
        ⟨.object, "Name", .string⟩
    let pair := Query.extension "Pair" [read ⟨0⟩, read ⟨1⟩]
    let stored := fun tableAlias : String => Lowered.sql
      (.leaf ⟨.string, Dialect.ansi.mapping? .string, false⟩
        (.column ⟨tableAlias, "name"⟩))
    let result := Lowered.extension "Pair" [stored "c", stored "c0"]
    let lowerer := withBuiltInRules model Dialect.ansi.mappings .standard
    pair.Everywhere (Query.NamesTables select) ∧
      (lowerer.lower select pair false).1 = .ok result ∧
      (∃ table, table ∈ select.tables ∧ table.tableAlias = "c0" ∧
        model.Stores table.entityType "name") ∧
      (lowerer.lower (select.relabel fun _ => "Order") pair false).1 =
        .ok result := by
  intro name customer model select read pair stored result lowerer
  have readNamed : ∀ buffer, buffer ∈ [⟨0⟩, ⟨1⟩] →
      (read buffer).Everywhere (Query.NamesTables select) := by
    intro buffer isBuffer
    have entityNamed :
        Query.NamesTables select (.shaper ⟨"Customer", buffer⟩) := by
      intro table known
      have sameTypes : ∀ table, table ∈ select.tables →
          table.entityType = "Customer" := by
        simp [select]
      exact sameTypes table (Select.mem_tables_of_tableFor? known)
    refine (Tree.everywhere_iff _).2 ⟨trivial, ?_⟩
    simpa [read, Query.children] using (Query.everywhere_shaper _).2 entityNamed
  have pairNamed : pair.Everywhere (Query.NamesTables select) := by
    refine (Tree.everywhere_iff pair).2 ⟨trivial, ?_⟩
    simpa [pair, Query.children] using readNamed
  have lowersToPair : (lowerer.lower select pair false).1 = .ok result := by cbv
  obtain ⟨_, qualified, relabeled⟩ :=
    lower_qualifiesColumns model Dialect.ansi.mappings .standard select pair
      false result lowersToPair
  exact ⟨pairNamed, lowersToPair,
    qualified pairNamed ⟨"c0", "name"⟩
      (by simp [result, stored, Sql.Atom.columns]), relabeled _⟩

/-- A shaper that names customers where the buffer holds orders is bound all the
same, to a column that the table of orders does not have. -/
theorem lower_qualifiesColumns_otherEntity :
    let name : Property := ⟨"Name", "name", .string, none⟩
    let total : Property := ⟨"Total", "total", .int32, none⟩
    let customer : EntityType := ⟨"Customer", "customers", [name]⟩
    let order : EntityType := ⟨"Order", "orders", [total]⟩
    let model : EntityModel := ⟨[customer, order]⟩
    let select := ((Select.empty Dialect.ansi.mappings).addTable order).1
    let query :=
      Query.access (some (.shaper ⟨"Customer", ⟨0⟩⟩)) ⟨.object, "Name", .string⟩
    let column : Sql.ColumnRef := ⟨"o", "name"⟩
    let node := Sql.Node.leaf ⟨.string, Dialect.ansi.mapping? .string, false⟩
      (.column column)
    ((withBuiltInRules model Dialect.ansi.mappings .standard).lower
        select query false).1 = .ok (.sql node) ∧
      column ∈ (Lowered.sql node).columns ∧
      ¬ ∃ table, table ∈ select.tables ∧ table.tableAlias = column.tableAlias ∧
        model.Stores table.entityType column.column := by
  intro name total customer order model select query column node
  have baseAlias : Select.baseAlias "orders" = "o" := by decide
  have added : select =
      ⟨Dialect.ansi.mappings, [⟨"o", "orders", "Order", ⟨0⟩⟩], []⟩ := by
    simp [Select.addTable, Select.freshAlias, Select.usesAlias, Select.empty,
      order, select, baseAlias]
  rw [added]
  refine ⟨by cbv, by simp [node, Sql.Atom.columns], ?_⟩
  rintro ⟨table, isTable, _, entity, property, entityKnown, inEntity,
    sameColumn⟩
  obtain rfl := List.mem_singleton.1 isTable
  obtain rfl : order = entity := by
    simpa [EntityModel.entity?, model, customer, order] using entityKnown
  obtain rfl := List.mem_singleton.1 inEntity
  simp [total, column] at sameColumn

end Lowerer
end QueryLowering
