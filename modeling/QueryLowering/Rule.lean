import QueryLowering.Lowered

/-!
# Rules for members and method calls

A rule looks at a member or a method call whose operands are lowered already,
and either gives an SQL expression for it or declines. Rules are tried in order,
and the first that does not decline decides.
-/

namespace QueryLowering

/-- A member whose inner expression is lowered. -/
structure MemberUse where
  inner : Option Lowered
  member : Member

namespace MemberUse

/-- The inner expression, if it is SQL. -/
def innerSql? (use : MemberUse) : Option Sql.Node := use.inner.bind Lowered.sql?

end MemberUse

/-- A method call whose target and arguments are lowered, each on its own. An
argument without an SQL equivalent keeps its place. -/
structure CallUse where
  target : Option Lowered
  method : Method
  arguments : List Lowered

namespace CallUse

/-- The target, if it is SQL. -/
def targetSql? (use : CallUse) : Option Sql.Node := use.target.bind Lowered.sql?

/-- The only argument, if there is just one and it is SQL. -/
def onlyArgumentSql? (use : CallUse) : Option Sql.Node :=
  match use.arguments with
  | [argument] => argument.sql?
  | _ => none

/-- The arguments, if every one of them is SQL. -/
def argumentsSql? (use : CallUse) : Option (List Sql.Node) :=
  use.arguments.mapM Lowered.sql?

end CallUse

/-- A rule gives an SQL expression or declines. -/
abbrev Rule (α : Type) := α → Option Sql.Node

namespace Rule

/-- What the first rule that does not decline gives. -/
def firstMatch? (rules : List (Rule α)) (use : α) : Option Sql.Node :=
  rules.findSome? fun rule => rule use

end Rule
end QueryLowering
