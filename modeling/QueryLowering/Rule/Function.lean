import QueryLowering.Query
import QueryLowering.Sql.Node
import QueryLowering.Text.Casing

/-!
# SQL functions for methods

A table of the methods that are SQL functions. A method of an instance passes
its target as the first argument of the function, and a static method passes
its arguments alone. Two functions take adjusted arguments.
-/

namespace QueryLowering

namespace Rule

/-- How the arguments of a function differ from those of the method. -/
inductive Adjustment
  /-- The second argument counts from one and not from zero. -/
  | countFromOne
  /-- A missing second argument is zero. -/
  | zeroPlaces
  deriving DecidableEq

/-- An integer constant. -/
def integerNode (value : Int64) : Sql.Node := .constant (.integer value) .int32

/-- Change the arguments of a method into those of its function. -/
def Adjustment.apply : Adjustment → List Sql.Node → List Sql.Node
  | .countFromOne, text :: start :: rest =>
      text :: .binary .add start (integerNode 1) start.valueType :: rest
  | .zeroPlaces, [number] => [number, integerNode 0]
  | _, arguments => arguments

/-- A method that is an SQL function. -/
structure SqlFunction where
  methodName : String
  functionName : String
  /-- The kind that the method is an instance method of, or none for a static
  one. -/
  instanceOf : Option Kind
  adjustment : Option Adjustment
  deriving DecidableEq

namespace SqlFunction

/-- A method of texts. -/
def ofText
    (methodName functionName : String)
    (adjustment : Option Adjustment) :
    SqlFunction :=
  ⟨methodName, functionName, some .string, adjustment⟩

/-- A static method of numbers. -/
def ofNumbers
    (methodName functionName : String)
    (adjustment : Option Adjustment) :
    SqlFunction :=
  ⟨methodName, functionName, none, adjustment⟩

/-- Every method that is an SQL function. -/
def all : List SqlFunction :=
  [ofText "to_upper" "UPPER" none,
    ofText "to_lower" "LOWER" none,
    ofText "trim" "TRIM" none,
    ofText "trim_start" "LTRIM" none,
    ofText "trim_end" "RTRIM" none,
    ofText "replace" "REPLACE" none,
    ofText "substring" "SUBSTRING" (some .countFromOne),
    ofNumbers "abs" "ABS" none,
    ofNumbers "ceiling" "CEILING" none,
    ofNumbers "floor" "FLOOR" none,
    ofNumbers "round" "ROUND" (some .zeroPlaces),
    ofNumbers "power" "POWER" none,
    ofNumbers "sqrt" "SQRT" none,
    ofNumbers "sign" "SIGN" none]

/-- The function for a method name, in any letter case. -/
def ofMethodName? (name : String) : Option SqlFunction :=
  all.find? fun function => function.methodName == Text.lowercase name

/-- Whether a method of the given kind and declaring kind is the function. -/
def accepts
    (function : SqlFunction)
    (kind : MethodKind)
    (declaringKind : Kind) :
    Bool :=
  match function.instanceOf with
  | some instanceKind =>
      kind == .instanceMethod && declaringKind == instanceKind
  | none => kind == .staticMethod

/-- The arguments of the function for those of the method. -/
def adjust
    (function : SqlFunction)
    (arguments : List Sql.Node) :
    List Sql.Node :=
  match function.adjustment with
  | some adjustment => adjustment.apply arguments
  | none => arguments

end SqlFunction
end Rule
end QueryLowering
