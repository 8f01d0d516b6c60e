import Mathlib
import QueryLowering.Proofs.Lowering.Agreement
import QueryLowering.Proofs.Rule.BuiltIn

/-!
# The order of the built-in rules

Rules are tried in order, but no order is better than another where at most one
rule can match. The built-in rules for members match different names, and so do
those for calls: a rule that looks a name up in any letter case has none of the
names that another rule asks for. So a lowerer with the built-in rules in any
order lowers every query alike.
-/

namespace QueryLowering
namespace Rule

/-- No use is matched by both rules. -/
def Exclusive (first second : Rule α) : Prop :=
  ∀ use, first use = none ∨ second use = none

theorem Exclusive.symm
    {first second : Rule α}
    (exclusive : first.Exclusive second) :
    second.Exclusive first :=
  fun use => (exclusive use).symm

/-- Rules that match different names are exclusive. -/
theorem exclusive_of_name
    {name : α → String}
    {first second : Rule α}
    (isNamed : String → Prop)
    (ofFirst : ∀ use node, first use = some node → isNamed (name use))
    (ofSecond : ∀ use node, second use = some node → ¬isNamed (name use)) :
    first.Exclusive second := by
  intro use
  cases ofUse : first use with
  | none => exact .inl rfl
  | some node =>
      have named := ofFirst use node ofUse
      refine .inr (Option.eq_none_iff_forall_ne_some.2 fun other ofOther => ?_)
      exact ofSecond use other ofOther named

/-- Where at most one rule can match, the order of the rules does not matter. -/
theorem firstMatch?_eq_of_perm
    {rules others : List (Rule α)}
    (reordered : rules.Perm others)
    (exclusive : rules.Pairwise Exclusive)
    (use : α) :
    firstMatch? rules use = firstMatch? others use := by
  induction reordered with
  | nil => rfl
  | cons rule _ inductionHypothesis =>
      have sameRest := inductionHypothesis exclusive.of_cons
      simp only [firstMatch?] at sameRest
      simp only [firstMatch?, List.findSome?_cons, sameRest]
  | swap first second rest =>
      have oneDeclines :=
        List.rel_of_pairwise_cons exclusive List.mem_cons_self use
      rcases oneDeclines with declined | declined
      · simp only [firstMatch?, List.findSome?_cons, declined]
      · simp only [firstMatch?, List.findSome?_cons, declined]
  | trans firstStep _ firstHypothesis secondHypothesis =>
      have stillExclusive := (firstStep.pairwise_iff Exclusive.symm).1 exclusive
      exact (firstHypothesis exclusive).trans (secondHypothesis stillExclusive)

theorem named_of_hasValue
    (use : MemberUse)
    (node : Sql.Node)
    (given : hasValue use = some node) :
    use.member.name = "has_value" :=
  ((hasValue_eq_some_iff use node).1 given).2.1

theorem named_of_stringLength
    (use : MemberUse)
    (node : Sql.Node)
    (given : stringLength use = some node) :
    use.member.name = "length" :=
  ((stringLength_eq_some_iff use node).1 given).2.1

theorem named_of_dateTimeMember
    (use : MemberUse)
    (node : Sql.Node)
    (given : dateTimeMember use = some node) :
    use.member.name ∈ "now" :: dateParts.map Prod.fst := by
  obtain ⟨_, ⟨_, isNow, _⟩ | ⟨keyword, _, isPart, _⟩⟩ :=
    (dateTimeMember_eq_some_iff use node).1 given
  · exact isNow ▸ List.mem_cons_self
  · obtain ⟨before, after, parts, _⟩ := List.lookup_eq_some_iff.1 isPart
    exact List.mem_cons_of_mem _
      (List.mem_map.2 ⟨_, parts ▸ List.mem_append_cons_self, rfl⟩)

theorem named_of_equals
    (use : CallUse)
    (node : Sql.Node)
    (given : equals use = some node) :
    use.method.name = "equals" :=
  ((equals_eq_some_iff use node).1 given).2.1

theorem named_of_stringSearch
    (use : CallUse)
    (node : Sql.Node)
    (given : stringSearch use = some node) :
    use.method.name ∈ ["starts_with", "ends_with", "contains"] := by
  obtain ⟨_, _, _, text, _, pattern, _, _, _, _, isPattern, _⟩ :=
    (stringSearch_eq_some_iff use node).1 given
  unfold likePattern? at isPattern
  split at isPattern
  case h_4 => cases isPattern
  all_goals simp [*]

/-- The table of functions has an entry for the method, in some letter case. -/
theorem named_of_functionCall
    (use : CallUse)
    (node : Sql.Node)
    (given : functionCall use = some node) :
    Text.lowercase use.method.name ∈
      SqlFunction.all.map SqlFunction.methodName := by
  obtain ⟨function, _, _, known, _⟩ :=
    (functionCall_eq_some_iff use node).1 given
  have inTable := List.mem_of_find?_eq_some known
  have named : function.methodName = Text.lowercase use.method.name := by
    simpa using List.find?_some known
  exact named ▸ List.mem_map_of_mem inTable

theorem pairwise_exclusive_builtInMembers :
    builtInMembers.Pairwise Exclusive := by
  have presenceOrLength : hasValue.Exclusive stringLength := by
    refine exclusive_of_name (· = "has_value") named_of_hasValue
      fun use node given named => ?_
    have isLength := named_of_stringLength use node given
    simp [named] at isLength
  have presenceOrPart : hasValue.Exclusive dateTimeMember := by
    refine exclusive_of_name (· = "has_value") named_of_hasValue
      fun use node given named => ?_
    have isPart := named_of_dateTimeMember use node given
    simp [named, dateParts] at isPart
  have lengthOrPart : stringLength.Exclusive dateTimeMember := by
    refine exclusive_of_name (· = "length") named_of_stringLength
      fun use node given named => ?_
    have isPart := named_of_dateTimeMember use node given
    simp [named, dateParts] at isPart
  simp [builtInMembers, presenceOrLength, presenceOrPart, lengthOrPart]

/-- The names that the first two rules for calls match are in lower case
already, and the table of functions has none of them. -/
theorem pairwise_exclusive_builtInCalls : builtInCalls.Pairwise Exclusive := by
  have equalityOrSearch : equals.Exclusive stringSearch := by
    refine exclusive_of_name (· = "equals") named_of_equals
      fun use node given named => ?_
    have isSearch := named_of_stringSearch use node given
    simp [named] at isSearch
  have noFunction : ∀ name ∈ ["equals", "starts_with", "ends_with", "contains"],
      Text.lowercase name ∉ SqlFunction.all.map SqlFunction.methodName := by
    decide +kernel
  have equalityOrFunction : equals.Exclusive functionCall := by
    refine exclusive_of_name (· = "equals") named_of_equals
      fun use node given named => ?_
    exact noFunction _ (by simp [named]) (named_of_functionCall use node given)
  have searchOrFunction : stringSearch.Exclusive functionCall := by
    refine exclusive_of_name (· ∈ ["starts_with", "ends_with", "contains"])
      named_of_stringSearch fun use node given named => ?_
    exact noFunction _ (List.mem_cons_of_mem _ named)
      (named_of_functionCall use node given)
  simp [builtInCalls, equalityOrSearch, equalityOrFunction, searchOrFunction]

end Rule

namespace Lowerer

/-- No member and no call is matched by two of the built-in rules. So a lowerer
with the built-in rules in any order gives for every query the result or error,
and the context, that the lowerer with the rules in their own order gives. -/
theorem lower_in_any_rule_order :
    Rule.builtInMembers.Pairwise Rule.Exclusive ∧
    Rule.builtInCalls.Pairwise Rule.Exclusive ∧
    ∀ (lowerer : Lowerer) (select : Select) (query : Query)
        (requireCondition : Bool),
      lowerer.memberRules.Perm Rule.builtInMembers →
      lowerer.callRules.Perm Rule.builtInCalls →
      lowerer.lower select query requireCondition =
        (withBuiltInRules lowerer.model lowerer.mappings lowerer.settings).lower
          select query
          requireCondition := by
  refine ⟨Rule.pairwise_exclusive_builtInMembers,
    Rule.pairwise_exclusive_builtInCalls, ?_⟩
  intro lowerer select query requireCondition members calls
  have sameMembers := Rule.firstMatch?_eq_of_perm members.symm
    Rule.pairwise_exclusive_builtInMembers
  have sameCalls :=
    Rule.firstMatch?_eq_of_perm calls.symm Rule.pairwise_exclusive_builtInCalls
  have agrees : lowerer.AgreesWith
      (withBuiltInRules lowerer.model lowerer.mappings lowerer.settings) select
      select :=
    { mappings := rfl
      bound := fun _ _ => rfl
      members := fun use _ => applyRules_congr (sameMembers use).symm rfl
      calls := fun use => applyRules_congr (sameCalls use).symm rfl }
  exact agrees.lower_eq rfl query requireCondition

/-- With the rules in reverse order, the length of a text and a function of it
lower as before. -/
theorem lower_in_any_rule_order_reverse :
    let lowerer : Lowerer :=
      ⟨.empty, Dialect.ansi.mappings, Rule.builtInMembers.reverse,
        Rule.builtInCalls.reverse, .standard⟩
    let select := Select.empty Dialect.ansi.mappings
    let text := Query.parameter "name" .string
    let trimmed :=
      Query.call (some text) ⟨.instanceMethod, .string, "Trim", .string⟩ []
    let length := Query.access (some trimmed) ⟨.string, "length", .int32⟩
    let trim := Sql.Node.function "TRIM" [.parameter "name" .string] .string
    lowerer.memberRules.Perm Rule.builtInMembers ∧
      lowerer.callRules.Perm Rule.builtInCalls ∧
      (lowerer.lower select length false).1 =
        .ok (.sql ((Sql.Node.function "LENGTH" [trim] .int32).infer
          Dialect.ansi.mappings)) := by
  intro lowerer select text trimmed length trim
  have members : lowerer.memberRules.Perm Rule.builtInMembers :=
    List.reverse_perm _
  have calls : lowerer.callRules.Perm Rule.builtInCalls := List.reverse_perm _
  refine ⟨members, calls, ?_⟩
  rw [lower_in_any_rule_order.2.2 lowerer select length false members calls]
  cbv

end Lowerer
end QueryLowering
