import QueryLowering.Catalog.Model
import QueryLowering.Lowering.Attempt
import QueryLowering.Lowering.Operators
import QueryLowering.Rule
import QueryLowering.Settings

/-!
# Lowering of query trees

A query is lowered from the leaves up. Every subexpression has an attempt of its
own, and each node says in which order it makes the attempts of its children and
what it does with their values:

* A member of an entity, or a call of the property accessor on one, binds the
  property to a column.
* The value of a nullable SQL expression is the expression itself.
* Any other member and any other call is left to the rules of the lowerer.
* Operators, conversions and constructed objects are built from their parts.
-/

namespace QueryLowering

/-- What the lowering of queries depends on, apart from the select context. -/
structure Lowerer where
  model : EntityModel
  mappings : MappingSource
  memberRules : List (Rule MemberUse)
  callRules : List (Rule CallUse)
  settings : Settings

/-- The name of the property that a call of the property accessor reads, given
as a constant text in the second of two arguments. -/
def accessedProperty?
    (method : Method)
    (arguments : List Query) :
    Option String :=
  match method.kind, arguments with
  | .propertyAccessor, [_, .constant (.string name) _] => some name
  | _, _ => none

namespace Lowerer

variable (lowerer : Lowerer) (select : Select)

/-- Bind a property of an entity to the column that stores it. -/
def bindProperty (entity : EntityRef) (name : String) : Attempt Lowered :=
  match lowerer.model.entity? entity.entityType with
  | none => .fail (.unknownEntityType entity.entityType)
  | some entityType =>
      match entityType.property? name with
      | none => .fail (.propertyNotFound entityType.name name)
      | some property =>
          match select.columnRef entity.buffer property with
          | .error error => .fail (.unboundBuffer error)
          | .ok column =>
              ⟨[column], .ok (.sql (select.columnNode column property))⟩

/-- What the rules make of a member or a call, with its mappings. -/
def applyRules (rules : List (Rule α)) (use : α) : Lowered :=
  match Rule.firstMatch? rules use with
  | some node => .sql (node.infer lowerer.mappings)
  | none => .unsupported

/-- Lower a member, given its lowered inner expression. -/
def lowerMember (member : Member) (inner : Option Lowered) : Attempt Lowered :=
  match inner with
  | some (.shaper entity) => lowerer.bindProperty select entity member.name
  | some (.sql node) =>
      if member.isNullableValue then pure (.sql node.toNonNullable)
      else
        pure (lowerer.applyRules lowerer.memberRules ⟨some (.sql node), member⟩)
  | inner => pure (lowerer.applyRules lowerer.memberRules ⟨inner, member⟩)

/-- Lower a call by the rules, given the attempts for its target and for the
arguments that are not lowered yet. -/
def lowerRuleCall
    (method : Method)
    (target : Attempt (Option Lowered))
    (lowered : List Lowered)
    (arguments : List (Attempt Lowered)) :
    Attempt Lowered := do
  let target ← target
  let arguments ← Attempt.sequence arguments
  return lowerer.applyRules lowerer.callRules
    ⟨target, method, lowered ++ arguments⟩

/-- Lower a call, given the attempts for its target and its arguments. A
property accessor lowers its first argument before the target, and needs nothing
else if that is an entity. -/
def lowerCall
    (method : Method)
    (accessed : Option String)
    (target : Attempt (Option Lowered))
    (arguments : List (Attempt Lowered)) :
    Attempt Lowered :=
  match accessed, arguments with
  | some name, first :: rest => do
      match ← first with
      | .shaper entity => lowerer.bindProperty select entity name
      | first => lowerer.lowerRuleCall method target [first] rest
  | _, arguments => lowerer.lowerRuleCall method target [] arguments

/-- Lower the fields of a constructed object in order, up to the first that is
not complete; then there is no result. -/
def lowerFields :
    (members : List String) →
    (arguments : List (Attempt Lowered)) →
    Attempt (Option (List (String × Lowered)))
  | member :: members, argument :: arguments => do
      match Lowering.field? lowerer.mappings (← argument) with
      | none => return none
      | some value =>
          let rest ← lowerFields members arguments
          return rest.map fun fields => (member, value) :: fields
  | _, _ => return some []

/-- Lower a constructed object, given the attempts for its arguments. There must
be a member for each argument, and at least one. -/
def lowerConstruction
    (members : List String)
    (arguments : List (Attempt Lowered)) :
    Attempt Lowered :=
  if members.isEmpty || members.length != arguments.length then
    pure .unsupported
  else do
    match ← lowerer.lowerFields members arguments with
    | some fields => return .projection fields
    | none => return .unsupported

mutual

/-- Lower a query: the result, and the columns bound on the way. -/
def visit : Query → Attempt Lowered
  | .access inner member => do
      lowerer.lowerMember select member (← visitInner inner)
  | .call target method arguments =>
      lowerer.lowerCall select method (accessedProperty? method arguments)
        (visitInner target) (visitAll arguments)
  | .binary op left right method valueType => do
      let left ← visit left
      let right ← visit right
      .ofExcept
        (Lowering.binary lowerer.mappings op method valueType left right)
  | .unary op operand valueType => do
      return Lowering.unary lowerer.mappings op valueType (← visit operand)
  | .constant value valueType => pure (.sql (.constant value valueType))
  | .parameter name valueType => pure (.sql (.parameter name valueType))
  | .construction _ members arguments =>
      lowerer.lowerConstruction members (visitAll arguments)
  | .shaper entity => pure (.shaper entity)
  | .extension name children => do
      return .extension name (← Attempt.sequence (visitAll children))

/-- Lower an inner query that may be absent. -/
def visitInner : Option Query → Attempt (Option Lowered)
  | none => pure none
  | some query => do return some (← visit query)

/-- The attempts for several queries. -/
def visitAll : List Query → List (Attempt Lowered)
  | [] => []
  | query :: rest => visit query :: visitAll rest

end

end Lowerer
end QueryLowering
