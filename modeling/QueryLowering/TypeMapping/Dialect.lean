import QueryLowering.Text.Casing
import QueryLowering.TypeMapping.Source

/-!
# Dialects

The SQL dialects with a built-in choice of store types. Each has one store type
for every kind but the erased one, whatever the nullability.
-/

namespace QueryLowering

/-- An SQL dialect with built-in type mappings. -/
inductive Dialect
  | ansi
  | sqlServer
  | postgres
  deriving DecidableEq

namespace Dialect

/-- Every dialect. -/
def all : List Dialect := [.ansi, .sqlServer, .postgres]

/-- The display name of a dialect. -/
def name : Dialect → String
  | .ansi => "ansi"
  | .sqlServer => "sql_server"
  | .postgres => "postgres"

/-- The names under which a dialect can be asked for, in lower case. -/
def aliases : Dialect → List String
  | .ansi => ["ansi"]
  | .sqlServer => ["sql_server", "sqlserver", "mssql"]
  | .postgres => ["postgres", "postgresql"]

/-- The dialect with a given display name. -/
def ofName? (text : String) : Option Dialect :=
  all.find? fun dialect => dialect.name == text

/-- The dialect that a text asks for, in any letter case. -/
def ofAlias? (text : String) : Option Dialect :=
  all.find? fun dialect => (Text.lowercase text) ∈ dialect.aliases

/-- The message for a text that asks for no dialect. -/
def unknownMessage (text : String) : String :=
  "Unknown SQL dialect '" ++ text ++ "' (expected ansi, sql_server or postgres)"

/-- The store type of a kind. -/
def storeType? : Dialect → Kind → Option String
  | _, .object => none
  | .ansi, .boolean => "boolean"
  | .ansi, .int16 => "smallint"
  | .ansi, .int32 => "integer"
  | .ansi, .int64 => "bigint"
  | .ansi, .double => "double precision"
  | .ansi, .decimal => "decimal(18, 2)"
  | .ansi, .string => "varchar(4000)"
  | .ansi, .dateTime => "timestamp"
  | .ansi, .guid => "char(36)"
  | .ansi, .bytes => "varbinary(8000)"
  | .sqlServer, .boolean => "bit"
  | .sqlServer, .int16 => "smallint"
  | .sqlServer, .int32 => "int"
  | .sqlServer, .int64 => "bigint"
  | .sqlServer, .double => "float"
  | .sqlServer, .decimal => "decimal(18, 2)"
  | .sqlServer, .string => "nvarchar(max)"
  | .sqlServer, .dateTime => "datetime2"
  | .sqlServer, .guid => "uniqueidentifier"
  | .sqlServer, .bytes => "varbinary(max)"
  | .postgres, .boolean => "boolean"
  | .postgres, .int16 => "smallint"
  | .postgres, .int32 => "integer"
  | .postgres, .int64 => "bigint"
  | .postgres, .double => "double precision"
  | .postgres, .decimal => "numeric"
  | .postgres, .string => "text"
  | .postgres, .dateTime => "timestamp without time zone"
  | .postgres, .guid => "uuid"
  | .postgres, .bytes => "bytea"

/-- Give a mapping of truth values the boolean literals of a dialect. The bit
type of SQL Server has no boolean literals and takes one and zero. -/
def withLiterals (dialect : Dialect) (mapping : TypeMapping) : TypeMapping :=
  if dialect = .sqlServer ∧ mapping.kind = .boolean then
    mapping.withBooleanLiterals "1" "0"
  else mapping

/-- The built-in mapping of a kind. -/
def mapping? (dialect : Dialect) (kind : Kind) : Option TypeMapping :=
  (dialect.storeType? kind).map fun storeType =>
    dialect.withLiterals (.ofStoreType storeType kind)

/-- The built-in mapping of truth values. -/
def booleanMapping (dialect : Dialect) : TypeMapping :=
  (dialect.mapping? .boolean).getD (.ofStoreType "boolean" .boolean)

/-- The built-in mappings of a dialect, whatever the nullability of a type. -/
def mappings (dialect : Dialect) : MappingSource where
  find valueType := dialect.mapping? valueType.kind
  canonicalBoolean := dialect.booleanMapping

end Dialect
end QueryLowering
