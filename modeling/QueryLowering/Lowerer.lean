import QueryLowering.Lowering.Visit
import QueryLowering.Query.Depth
import QueryLowering.Rule.Call
import QueryLowering.Rule.Member

/-!
# Lowerers

A lowerer turns queries into SQL expressions against a select context. A query
that is too deep is refused before anything is bound. At the root, an SQL result
receives its mappings and, on demand, becomes a condition.
-/

namespace QueryLowering
namespace Lowerer

/-- The deepest queries that are small enough to be lowered in place. -/
def inlineDepth : Nat := 64

/-- A lowerer without rules. -/
def bare
    (model : EntityModel)
    (mappings : MappingSource)
    (settings : Settings) :
    Lowerer where
  model
  mappings
  memberRules := []
  callRules := []
  settings

/-- A lowerer with the built-in rules. -/
def withBuiltInRules
    (model : EntityModel)
    (mappings : MappingSource)
    (settings : Settings) :
    Lowerer where
  model
  mappings
  memberRules := Rule.builtInMembers
  callRules := Rule.builtInCalls
  settings

/-- A lowerer with the built-in rules and the mappings of the chosen dialect. -/
def ofSettings (model : EntityModel) (settings : Settings) : Lowerer :=
  withBuiltInRules model settings.mappings settings

/-- Finish the result for the root of a query: an SQL expression receives its
mappings, and becomes a condition where one is required. -/
def finish (lowerer : Lowerer) (requireCondition : Bool) : Lowered → Lowered
  | .sql node =>
      if requireCondition then
        .sql ((node.infer lowerer.mappings).toCondition
          lowerer.mappings.canonicalBoolean)
      else .sql (node.infer lowerer.mappings)
  | result => result

/-- Lower a query against a select context: the result or an error, and the
context with the columns bound on the way. -/
def lower
    (lowerer : Lowerer)
    (select : Select)
    (query : Query)
    (requireCondition : Bool) :
    Except LoweringError Lowered × Select :=
  if lowerer.settings.maxDepth.toNat < query.depth then
    (.error (.tooDeep lowerer.settings.maxDepth), select)
  else
    let attempt := lowerer.visit select query
    (attempt.result.map (lowerer.finish requireCondition),
      select.noteColumns attempt.columns)

/-- The warning that a query is left to the client as a whole, if the settings
ask for it. -/
def warning?
    (lowerer : Lowerer)
    (query : Query) :
    Except LoweringError Lowered → Option String
  | .ok .unsupported =>
      if lowerer.settings.logClientEvaluation then
        some ("SqlTranslator: " ++ query.description ++
          " could not be translated to SQL and will be evaluated on the client")
      else none
  | _ => none

end Lowerer
end QueryLowering
