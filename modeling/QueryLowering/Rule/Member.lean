import QueryLowering.Rule

/-!
# Built-in rules for members

The rules cover the presence test of nullable values, the length of texts, and
the parts of points in time.
-/

namespace QueryLowering
namespace Rule

/-- The member `has_value` of a nullable value is the test that it is not
null. -/
def hasValue : Rule MemberUse := fun use =>
  if use.member.declaringType.nullable && use.member.name == "has_value" then
    use.innerSql?.map fun inner => .nullTest inner true
  else none

/-- The member `length` of a text is a function of it, nullable as the text
is. -/
def stringLength : Rule MemberUse := fun use =>
  if use.member.declaringType.kind == .string &&
      use.member.name == "length" then
    use.innerSql?.map fun inner =>
      .function "LENGTH" [inner]
        (use.member.valueType.withNullability inner.valueType.nullable)
  else none

/-- The members that are parts of a point in time, with their SQL keywords. -/
def dateParts : List (String × String) :=
  [("year", "YEAR"), ("month", "MONTH"), ("day", "DAY"), ("hour", "HOUR"),
    ("minute", "MINUTE"), ("second", "SECOND")]

/-- The static member `now` is the current time, and a part of a point in time
is extracted from it by a function that takes the keyword of the part first. -/
def dateTimeMember : Rule MemberUse := fun use =>
  if use.member.declaringType.kind == .dateTime then
    match use.inner with
    | none =>
        if use.member.name == "now" then
          some (.fragment "CURRENT_TIMESTAMP" .dateTime)
        else none
    | some inner =>
        match dateParts.lookup use.member.name, inner.sql? with
        | some keyword, some node =>
            some (.function "EXTRACT" [.fragment keyword .string, node]
              (use.member.valueType.withNullability node.valueType.nullable))
        | _, _ => none
  else none

/-- The built-in rules for members, in order. -/
def builtInMembers : List (Rule MemberUse) :=
  [hasValue, stringLength, dateTimeMember]

end Rule
end QueryLowering
