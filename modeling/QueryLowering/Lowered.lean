import QueryLowering.Query
import QueryLowering.Sql.Node

/-!
# Results of lowering

A query lowers to an SQL expression, or to a tree above SQL: a shaper, a kept
conversion, the fields of a constructed object, or an extension node with its
children. A query without an SQL equivalent lowers to `unsupported` and is left
to the client; this is not an SQL null, which is a constant.
-/

namespace QueryLowering

/-- What a query lowers to. -/
inductive Lowered
  | sql (node : Sql.Node)
  /-- An entity, for the members and methods around it. -/
  | shaper (entity : EntityRef)
  /-- A conversion without an SQL cast: to the erased type, or of no SQL
  node. -/
  | convert (operand : Lowered) (target : ValueType)
  /-- The fields of a constructed object, in order. -/
  | projection (fields : List (String × Lowered))
  | extension (name : String) (children : List Lowered)
  /-- No SQL equivalent exists. -/
  | unsupported

namespace Lowered

/-- The SQL expression, if the result is one. -/
def sql? : Lowered → Option Sql.Node
  | .sql node => some node
  | _ => none

/-- The SQL expression, bare or under one conversion to the erased type. -/
def operand? : Lowered → Option Sql.Node
  | .sql node => some node
  | .convert (.sql node) target => if target.isErased then some node else none
  | _ => none

/-- Whether the result is left to the client as a whole. -/
def isUnsupported : Lowered → Bool
  | .unsupported => true
  | _ => false

mutual

/-- Whether no part of the result is left to the client. -/
def isComplete : Lowered → Bool
  | .sql _ => true
  | .shaper _ => true
  | .convert operand _ => operand.isComplete
  | .projection fields => areFieldsComplete fields
  | .extension _ children => areComplete children
  | .unsupported => false

/-- Whether no part of any field is left to the client. -/
def areFieldsComplete : List (String × Lowered) → Bool
  | [] => true
  | (_, value) :: rest => value.isComplete && areFieldsComplete rest

/-- Whether no part of any result is left to the client. -/
def areComplete : List Lowered → Bool
  | [] => true
  | value :: rest => value.isComplete && areComplete rest

end

end Lowered
end QueryLowering
