import QueryLowering.Select

/-!
# Errors of lowering

An error means that a query disagrees with the entity model, the type mappings
or the select context. A query that merely has no SQL equivalent is no error.
-/

namespace QueryLowering

/-- Why a query cannot be lowered. -/
inductive LoweringError
  /-- Neither operand of a concatenation has a textual mapping. -/
  | concatMappingNotInferred (left right : ValueType)
  | unknownEntityType (entity : String)
  | propertyNotFound (entity property : String)
  | unboundBuffer (error : UnboundBuffer)
  /-- The query is deeper than the limit. -/
  | tooDeep (limit : UInt32)
  deriving DecidableEq

namespace LoweringError

/-- The error in words. -/
def message : LoweringError → String
  | .concatMappingNotInferred left right =>
      "String concatenation operands have no inferable textual type mapping: "
        ++ left.text ++ " + " ++ right.text
  | .unknownEntityType entity =>
      "Entity type `" ++ entity ++ "` is not defined in the entity model"
  | .propertyNotFound entity property =>
      "Entity type `" ++ entity ++ "` has no mapped property `" ++ property ++
        "`"
  | .unboundBuffer error => error.message
  | .tooDeep limit =>
      "Expression nesting exceeds the configured maximum depth of "
        ++ String.ofList (Text.decimal limit.toNat)

end LoweringError
end QueryLowering
