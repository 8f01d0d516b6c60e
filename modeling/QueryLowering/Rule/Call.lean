import QueryLowering.Rule
import QueryLowering.Rule.Function

/-!
# Built-in rules for method calls

The rules cover equality, patterns over texts, and the methods that are SQL
functions.
-/

namespace QueryLowering
namespace Rule

/-- The call `a.equals(b)` is the comparison of both. -/
def equals : Rule CallUse := fun use =>
  if use.method.kind == .instanceMethod && use.method.name == "equals" then
    match use.targetSql?, use.onlyArgumentSql? with
    | some left, some right => some (.binary .equal left right .boolean)
    | _, _ => none
  else none

/-- Whether a character has a meaning of its own in a pattern. -/
def isWildcard (character : Char) : Bool :=
  character == '%' || character == '_' || character == '['

/-- The pattern for a text that a method searches for, if there is such a
method. -/
def likePattern? (methodName text : String) : Option String :=
  match methodName with
  | "starts_with" => some (text ++ "%")
  | "ends_with" => some ("%" ++ text)
  | "contains" => some ("%" ++ text ++ "%")
  | _ => none

/-- A search for a constant text without wildcards, at the start, at the end or
anywhere in a text, is a match with a pattern. -/
def stringSearch : Rule CallUse := fun use =>
  if use.method.kind == .instanceMethod &&
      use.method.declaringKind == .string then
    match use.targetSql?, use.onlyArgumentSql?.bind Sql.Node.literal? with
    | some target, some (.string text) =>
        if text.toList.any isWildcard then none
        else (likePattern? use.method.name text).map fun pattern =>
          .binary .like target (.constant (.string pattern) .string) .boolean
    | _, _ => none
  else none

/-- The target of an instance method as the first argument, and no argument for
a static one. -/
def leadingArguments?
    (function : SqlFunction)
    (use : CallUse) :
    Option (List Sql.Node) :=
  match function.instanceOf with
  | some _ => use.targetSql?.map fun target => [target]
  | none => some []

/-- A method in the table of functions is a call of its function. The call is
nullable when the method or any argument is. -/
def functionCall : Rule CallUse := fun use => do
  let function ← SqlFunction.ofMethodName? use.method.name
  if function.accepts use.method.kind use.method.declaringKind then
    let rest ← use.argumentsSql?
    let leading ← leadingArguments? function use
    let arguments := leading ++ rest
    let nullable := arguments.any fun argument => argument.valueType.nullable
    some (.function function.functionName (function.adjust arguments)
      (use.method.returnType.withNullability
        (use.method.returnType.nullable || nullable)))
  else none

/-- The built-in rules for method calls, in order. -/
def builtInCalls : List (Rule CallUse) := [equals, stringSearch, functionCall]

end Rule
end QueryLowering
