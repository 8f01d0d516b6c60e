import QueryLowering.Lowerer
import QueryLowering.Proofs.Sql.Columns

/-!
# Contexts that a host can come to

A host starts with a context without tables. It adds tables, binds properties
and lowers queries, in any order and as often as it likes. Whatever it does, no
column is noted twice.
-/

namespace QueryLowering
namespace Select

/-- A context that comes about by adding tables, binding properties and lowering
queries, whether these succeed or not. -/
inductive Reachable : Select → Prop
  | empty (mappings : MappingSource) : Reachable (.empty mappings)
  | addTable {select : Select} (entity : EntityType) :
      Reachable select → Reachable (select.addTable entity).1
  | bind {select : Select} (buffer : ValueBuffer) (property : Property) :
      Reachable select → Reachable (select.bind buffer property).2
  | lower {select : Select} (lowerer : Lowerer) (query : Query)
      (requireCondition : Bool) :
      Reachable select →
        Reachable (lowerer.lower select query requireCondition).2

/-- The context after the tables of several entity types are added in order. -/
def addTables (select : Select) (entities : List EntityType) : Select :=
  entities.foldl (fun select entity => (select.addTable entity).1) select

/-- Noting columns keeps those noted before and adds the others. -/
theorem mem_noteColumns_iff
    (select : Select)
    (columns : List Sql.ColumnRef)
    (column : Sql.ColumnRef) :
    column ∈ (select.noteColumns columns).columns ↔
      column ∈ select.columns ∨ column ∈ columns := by
  rw [noteColumns_eq]
  by_cases known : column ∈ select.columns
  · simp [known]
  · simp [known]

/-- Columns noted before stay where they are. -/
theorem prefix_noteColumns (select : Select) (columns : List Sql.ColumnRef) :
    select.columns <+: (select.noteColumns columns).columns := by
  rw [noteColumns_eq]
  exact List.prefix_append _ _

@[simp] theorem tables_noteColumns
    (select : Select)
    (columns : List Sql.ColumnRef) :
    (select.noteColumns columns).tables = select.tables := by
  rw [noteColumns_eq]

/-- What holds of no tables, and goes on to hold as tables are added, holds of
the tables of every such context. Binding and lowering leave the tables
alone. -/
theorem Reachable.tables_induction
    {motive : List TableSource → Prop}
    (empty : motive [])
    (addTable : ∀ (select : Select) (entity : EntityType),
      motive select.tables → motive (select.addTable entity).1.tables)
    {select : Select}
    (reachable : select.Reachable) :
    motive select.tables := by
  induction reachable with
  | empty mappings => exact empty
  | addTable entity _ inductionHypothesis =>
      exact addTable _ entity inductionHypothesis
  | @bind select buffer property _ inductionHypothesis =>
      unfold Select.bind
      split
      · next column _ =>
          exact select.tables_noteColumns [column] ▸ inductionHypothesis
      · exact inductionHypothesis
  | @lower select lowerer query _ _ inductionHypothesis =>
      unfold Lowerer.lower
      split
      · exact inductionHypothesis
      · simpa using inductionHypothesis

/-- A host can add several tables in order. -/
theorem Reachable.addTables
    {select : Select}
    (reachable : select.Reachable)
    (entities : List EntityType) :
    (select.addTables entities).Reachable := by
  induction entities generalizing select with
  | nil => exact reachable
  | cons entity rest inductionHypothesis =>
      exact inductionHypothesis (reachable.addTable entity)

/-- No column is noted twice. -/
theorem Reachable.nodup {select : Select} (reachable : select.Reachable) :
    select.columns.Nodup := by
  induction reachable with
  | empty mappings => exact List.nodup_nil
  | addTable entity _ inductionHypothesis => exact inductionHypothesis
  | @bind select buffer property _ inductionHypothesis =>
      unfold Select.bind
      split
      · next column _ =>
          exact select.nodup_noteColumns [column] inductionHypothesis
      · exact inductionHypothesis
  | @lower select lowerer query _ _ inductionHypothesis =>
      unfold Lowerer.lower
      split
      · exact inductionHypothesis
      · exact select.nodup_noteColumns _ inductionHypothesis

end Select
end QueryLowering
