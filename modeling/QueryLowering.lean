import QueryLowering.Yaml.Cursor
import QueryLowering.Yaml.Scalar
import QueryLowering.Yaml.Scalar.Block
import QueryLowering.Yaml.Tag
import QueryLowering.Yaml.Token
import QueryLowering.Yaml.Event
import QueryLowering.Yaml.Node
import QueryLowering.Yaml.Decode
import QueryLowering.ValueType
import QueryLowering.Text.Digits
import QueryLowering.Text.Quoted
import QueryLowering.Text.Casing
import QueryLowering.Text.Blank
import QueryLowering.Binary64
import QueryLowering.Binary64.Shortest
import QueryLowering.DateTime
import QueryLowering.Guid
import QueryLowering.Literal
import QueryLowering.TypeMapping
import QueryLowering.TypeMapping.Source
import QueryLowering.TypeMapping.Dialect
import QueryLowering.Query
import QueryLowering.Query.Depth
import QueryLowering.Sql.Operator
import QueryLowering.Sql.Node
import QueryLowering.Sql.Inference
import QueryLowering.Text.Identifier
import QueryLowering.Catalog.Entity
import QueryLowering.Catalog.Model
import QueryLowering.Catalog.Definition
import QueryLowering.Select
import QueryLowering.Sql.Condition
import QueryLowering.Lowered
import QueryLowering.Lowering.Error
import QueryLowering.Lowering.Attempt
import QueryLowering.Lowering.Operators
import QueryLowering.Lowering.Visit
import QueryLowering.Rule
import QueryLowering.Rule.Member
import QueryLowering.Rule.Function
import QueryLowering.Rule.Call
import QueryLowering.Settings
import QueryLowering.Lowerer
import QueryLowering.Text.Unsigned
import QueryLowering.Settings.Environment
import QueryLowering.Settings.Document
import QueryLowering.Catalog.Document
import QueryLowering.Data
import QueryLowering.Data.Encode
import QueryLowering.Data.Decode
import QueryLowering.Proofs.Tree
import QueryLowering.Proofs.Sql.Inference
import QueryLowering.Proofs.Sql.Settling
import QueryLowering.Proofs.Lowering.Attempt
import QueryLowering.Proofs.Lowering.Lowers
import QueryLowering.Proofs.Lowering.Step
import QueryLowering.Proofs.Lowering.Unsupported
import QueryLowering.Proofs.Rule.BuiltIn
import QueryLowering.Proofs.Lowering.Invariant
import QueryLowering.Proofs.Sql.WellMapped
import QueryLowering.Proofs.Lowering.Mapped
import QueryLowering.Proofs.Sql.Guarded
import QueryLowering.Proofs.Lowering.Guarded
import QueryLowering.Proofs.Sql.Conditions
import QueryLowering.Proofs.Lowering.Conditions
import QueryLowering.Proofs.Sql.Columns
import QueryLowering.Proofs.Rule.Operands
import QueryLowering.Proofs.Lowering.Columns
import QueryLowering.Proofs.Lowering.Complete
import QueryLowering.Proofs.Sql.Blank
import QueryLowering.Proofs.Lowering.Blank
import QueryLowering.Proofs.Rule.Blank
import QueryLowering.Proofs.Lowering.Dialect
import QueryLowering.Proofs.Lowering.Kinds
import QueryLowering.Proofs.Query.Height
import QueryLowering.Proofs.Query.Spelling
import QueryLowering.Proofs.Lowering.Agreement
import QueryLowering.Proofs.Select.Reachable
import QueryLowering.Proofs.Lowering.Order
import QueryLowering.Proofs.Lowering.WellFormed
import QueryLowering.Proofs.Sql.FullyMapped
import QueryLowering.Proofs.Lowering.Concatenation
import QueryLowering.Proofs.Lowering.NullTest
import QueryLowering.Proofs.Lowering.Tables
import QueryLowering.Proofs.Sql.Kept
import QueryLowering.Proofs.Lowering.Equals
import QueryLowering.Proofs.Sql.Pattern
import QueryLowering.Proofs.Rule.StringSearch
import QueryLowering.Proofs.Sql.Ready
import QueryLowering.Proofs.Lowering.Passthrough
import QueryLowering.Proofs.Lowering.Nullability
import QueryLowering.Proofs.Lowering.Depth
import QueryLowering.Proofs.Lowering.Threaded
import QueryLowering.Proofs.Select.Aliases
import QueryLowering.Proofs.Lowering.Calls
import QueryLowering.Proofs.Lowering.RuleOrder
import QueryLowering.Proofs.Text.Identifier
import QueryLowering.Proofs.Catalog.Build
import QueryLowering.Proofs.Text.Digits
import QueryLowering.Proofs.DateTime
import QueryLowering.Proofs.TypeMapping
import QueryLowering.Proofs.Lowering.StoreType
import QueryLowering.Proofs.Traversal
import QueryLowering.Proofs.Text.Casing
import QueryLowering.Proofs.Binary64
import QueryLowering.Proofs.Text.Unsigned
import QueryLowering.Proofs.Settings.Environment
