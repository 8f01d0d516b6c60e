import QueryLowering.Sql.Node

/-!
# Conditions

SQL distinguishes conditions from boolean values. Where a condition is required,
a boolean value is compared with the literal for truth.
-/

namespace QueryLowering
namespace Sql
namespace Node

/-- The literal for truth, as the given mapping writes it. -/
def truth (mapping : TypeMapping) : Node :=
  (constant (.boolean true) .boolean).withMapping mapping

/-- A condition for a node: a boolean value that is no condition is tested for
truth, and everything else stays as it is. The test carries the canonical
boolean mapping, and its literal the mapping of the value. -/
def toCondition (canonical : TypeMapping) (node : Node) : Node :=
  if node.isCondition then node
  else match node.mapping with
    | some mapping =>
        if mapping.kind = .boolean then
          (binary .equal node (truth mapping) .boolean).withMapping canonical
        else node
    | none => node

end Node
end Sql
end QueryLowering
