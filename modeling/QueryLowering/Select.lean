import QueryLowering.Catalog.Entity
import QueryLowering.Query
import QueryLowering.Sql.Node
import QueryLowering.TypeMapping.Source

/-!
# Select contexts

A select context holds the tables of one SQL query and the columns that its
expressions use. Each table has an alias of its own and a value buffer that its
rows are read into. Binding a property of an entity, read from a buffer, gives
the column of the buffer's table that stores it.
-/

namespace QueryLowering

/-- A table of a query. -/
structure TableSource where
  tableAlias : String
  table : String
  entityType : String
  buffer : ValueBuffer
  deriving DecidableEq

/-- The tables and columns of one query. -/
structure Select where
  /-- The mappings that columns receive when they are bound. -/
  mappings : MappingSource
  tables : List TableSource
  /-- The columns used so far, each once, in order of first use. -/
  columns : List Sql.ColumnRef

/-- A buffer that backs no table of the context. -/
structure UnboundBuffer where
  buffer : ValueBuffer
  deriving DecidableEq

namespace UnboundBuffer

/-- The error in words. -/
def message (error : UnboundBuffer) : String :=
  "Value buffer ValueBufferRef(" ++
    String.ofList (Text.decimal error.buffer.index.toNat) ++
    ") is not bound to any table in this select"

end UnboundBuffer

namespace Select

/-- The context without tables. -/
def empty (mappings : MappingSource) : Select := ⟨mappings, [], []⟩

/-- What follows the last point of a table name. -/
def unqualified (table : List Char) : List Char :=
  (table.reverse.takeWhile (· != '.')).reverse

/-- The alias that a table would have alone: the first letter of its unqualified
name in lower case, or `t` without one. -/
def baseAlias (table : String) : String :=
  match unqualified table.toList with
  | [] => "t"
  | first :: _ => String.ofList [first.toLower]

/-- An alias followed by a number. -/
def numberedAlias (base : String) (number : Nat) : String :=
  base ++ String.ofList (Text.decimal number)

/-- Whether a table of the context has the alias. -/
def usesAlias (select : Select) (tableAlias : String) : Bool :=
  select.tables.any fun table => table.tableAlias == tableAlias

/-- The alias for a new table: the base alias if it is free, else the first free
one among those numbered from zero. One of them is free as soon as there are
more of them than tables. -/
def freshAlias (select : Select) (table : String) : String :=
  let base := baseAlias table
  if select.usesAlias base then
    (((List.range (select.tables.length + 1)).map (numberedAlias base)).find?
      fun candidate => !select.usesAlias candidate).getD base
  else base

/-- Add the table of an entity type. Its buffer is numbered by the tables
before. -/
def addTable (select : Select) (entity : EntityType) : Select × TableSource :=
  let table : TableSource :=
    { tableAlias := select.freshAlias entity.table
      table := entity.table
      entityType := entity.name
      buffer := ⟨UInt32.ofNat select.tables.length⟩ }
  ({ select with tables := select.tables ++ [table] }, table)

/-- The table behind a buffer. -/
def tableFor? (select : Select) (buffer : ValueBuffer) : Option TableSource :=
  select.tables.find? fun table => table.buffer == buffer

/-- The column of a property in the table behind a buffer. -/
def columnRef (select : Select) (buffer : ValueBuffer) (property : Property) :
    Except UnboundBuffer Sql.ColumnRef :=
  match select.tableFor? buffer with
  | some table => .ok ⟨table.tableAlias, property.column⟩
  | none => .error ⟨buffer⟩

/-- The mapping of a property: that of its value type, bound to the store type
that the property declares. -/
def propertyMapping
    (select : Select)
    (property : Property) :
    Option TypeMapping :=
  (select.mappings.find property.valueType).map fun mapping =>
    match property.storeType with
    | some storeType => mapping.withStoreType storeType
    | none => mapping

/-- The expression for a property that is stored in a column. -/
def columnNode
    (select : Select)
    (column : Sql.ColumnRef)
    (property : Property) :
    Sql.Node :=
  .column column property.valueType (select.propertyMapping property)

/-- Note the use of a column. A column noted before keeps its place. -/
def noteColumn (select : Select) (column : Sql.ColumnRef) : Select :=
  if column ∈ select.columns then select
  else { select with columns := select.columns ++ [column] }

/-- Note the use of several columns in order. -/
def noteColumns (select : Select) (columns : List Sql.ColumnRef) : Select :=
  columns.foldl noteColumn select

/-- Bind a property, read from a buffer, and note the use of its column. -/
def bind (select : Select) (buffer : ValueBuffer) (property : Property) :
    Except UnboundBuffer Sql.Node × Select :=
  match select.columnRef buffer property with
  | .ok column =>
      (.ok (select.columnNode column property), select.noteColumn column)
  | .error error => (.error error, select)

end Select
end QueryLowering
