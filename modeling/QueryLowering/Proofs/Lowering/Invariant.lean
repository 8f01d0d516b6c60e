import QueryLowering.Proofs.Lowering.Lowers
import QueryLowering.Proofs.Lowering.Step
import QueryLowering.Proofs.Rule.BuiltIn
import QueryLowering.Proofs.Sql.Nullability

/-!
# Invariants of SQL expressions

What is claimed of every SQL expression in a result is shown once for each way
to build one. An invariant lists these ways: the leaves, the operators over
operands that satisfy it, and the calls of functions. By induction over the ways
to lower a query it then holds of every expression in the result.

An invariant may rely on a condition on the nodes of the query, which is assumed
of the whole query.
-/

namespace QueryLowering

/-- Comparisons and operators on truth values are declared as truth values. -/
def Query.DeclaresTruth : Query → Prop
  | .binary op _ _ _ valueType =>
      (op.isComparison = true ∨ op.isLogical = true) → valueType.kind = .boolean
  | .unary op _ valueType => op = .not → valueType.kind = .boolean
  | _ => True

namespace Query.BinaryOp

@[simp] theorem isLogical_toSql (op : Query.BinaryOp) :
    op.toSql.isLogical = op.isLogical := by
  cases op <;> rfl

@[simp] theorem isComparison_toSql (op : Query.BinaryOp) :
    op.toSql.isComparison = op.isComparison := by
  cases op <;> rfl

theorem toSql_ne_concat (op : Query.BinaryOp) : op.toSql ≠ .concat := by
  cases op <;> decide

end Query.BinaryOp

namespace Lowerer

/-- The lowerer has the built-in rules and no others. -/
structure HasBuiltInRules (lowerer : Lowerer) : Prop where
  members : lowerer.memberRules = Rule.builtInMembers
  calls : lowerer.callRules = Rule.builtInCalls

theorem hasBuiltInRules_withBuiltInRules
    (model : EntityModel)
    (mappings : MappingSource)
    (settings : Settings) :
    (withBuiltInRules model mappings settings).HasBuiltInRules :=
  ⟨rfl, rfl⟩

/-- A function takes an operand that satisfies the invariant, or one more than
such an operand. -/
def IsFunctionArgument (holds : Sql.Node → Prop) (argument : Sql.Node) : Prop :=
  holds argument ∨
    ∃ start, holds start ∧
      argument = .binary .add start (Rule.integerNode 1) start.valueType

/-- A property of SQL expressions that every way to build one keeps. -/
structure NodeInvariant
    (lowerer : Lowerer)
    (select : Select)
    (permits : Query → Prop)
    (holds : Sql.Node → Prop) : Prop where
  constant : ∀ value valueType, holds (.constant value valueType)
  parameter : ∀ name valueType, holds (.parameter name valueType)
  fragment : ∀ sql valueType, holds (.fragment sql valueType)
  bound : ∀ entity name node,
    permits (.shaper entity) →
    (lowerer.bindProperty select entity name).result = .ok (.sql node) →
    holds node
  nonNullable : ∀ inner member node,
    permits (.access (some inner) member) → member.isNullableValue = true →
    holds node → holds node.toNonNullable
  inferred : ∀ node, holds node → holds (node.infer lowerer.mappings)
  nullTest : ∀ operand negated,
    holds operand →
      holds ((Sql.Node.nullTest operand negated).infer lowerer.mappings)
  /-- The rules compare with a truth value as the result. -/
  comparison : ∀ op left right,
    op.isComparison = true → holds left → holds right →
    holds ((Sql.Node.binary op left right .boolean).infer lowerer.mappings)
  combination : ∀ op left right method valueType leftNode rightNode,
    permits (.binary op left right method valueType) → op.isLogical = false →
    holds leftNode → holds rightNode →
    holds ((Sql.Node.binary op.toSql leftNode rightNode valueType).infer
      lowerer.mappings)
  junction : ∀ op left right method valueType leftNode rightNode,
    permits (.binary op left right method valueType) → op.isLogical = true →
    holds leftNode → holds rightNode →
    holds ((Sql.Node.binary op.toSql
      (Lowering.conditionOperand lowerer.mappings leftNode)
      (Lowering.conditionOperand lowerer.mappings rightNode)
      valueType).infer lowerer.mappings)
  concatenation : ∀ left right node,
    holds left → holds right →
    Lowering.concatenation lowerer.mappings left right = .ok node → holds node
  cast : ∀ operand valueType,
    valueType.isErased = false → holds operand →
    holds ((operand.cast valueType).infer lowerer.mappings)
  not : ∀ operand valueType node,
    permits (.unary .not operand valueType) → holds node →
    holds (((Lowering.conditionOperand lowerer.mappings node).not
      valueType).infer lowerer.mappings)
  negate : ∀ operand valueType,
    holds operand → holds ((operand.negate valueType).infer lowerer.mappings)
  /-- The rules declare a function as nullable if an argument is. -/
  function : ∀ name arguments valueType,
    (∀ argument, argument ∈ arguments → IsFunctionArgument holds argument) →
    (Sql.Node.function name arguments valueType).PassesNullOn →
    holds ((Sql.Node.function name arguments valueType).infer lowerer.mappings)

/-- The SQL expressions at the root of a result and in the fields of a
constructed object satisfy a property, and those in fields have their
mappings. -/
def Carries (lowerer : Lowerer) (holds : Sql.Node → Prop) : Lowered → Prop
  | .sql node => holds node
  | .projection fields =>
      ∀ field, field ∈ fields → ∀ node, field.2 = .sql node →
      ∃ raw, holds raw ∧ raw.infer lowerer.mappings = node
  | .shaper _ | .convert _ _ | .extension _ _ | .unsupported => True

section

variable {lowerer : Lowerer} {select : Select}
variable {permits : Query → Prop} {holds : Sql.Node → Prop}

/-- All that a result can be: nothing, SQL, an entity or a conversion that the
query is itself, a constructed object, or an extension node. -/
theorem Lowers.origin
    {query : Query}
    {result : Lowered}
    (lowered : lowerer.Lowers select query result) :
    result = .unsupported ∨
    (∃ node, result = .sql node) ∨
    (∃ entity, query = .shaper entity ∧ result = .shaper entity) ∨
    (∃ operand value target, query = .unary .convert operand target ∧
      lowerer.Lowers select operand value ∧ result = .convert value target) ∨
    (∃ fields, result = .projection fields) ∨
    (∃ name children, result = .extension name children) := by
  have ruled : ∀ {α : Type} (rules : List (Rule α)) (use : α),
      lowerer.applyRules rules use = .unsupported ∨
        ∃ node, lowerer.applyRules rules use = .sql node := by
    intro α rules use
    exact (lowerer.applyRules_cases rules use).imp_right
      fun ⟨node, _, given⟩ => ⟨_, given⟩
  have isColumn : ∀ {entity : EntityRef} {name : String} {value : Lowered},
      (lowerer.bindProperty select entity name).result = .ok value →
      ∃ node, value = .sql node := by
    intro entity name value bound
    obtain ⟨_, _, _, _, _, _, isColumn⟩ :=
      (lowerer.result_bindProperty_eq_ok_iff select entity name value).1 bound
    exact ⟨_, isColumn.symm⟩
  cases lowered with
  | constant | parameter | nullableValue => exact .inr (.inl ⟨_, rfl⟩)
  | shaper entity => exact .inr (.inr (.inl ⟨entity, rfl, rfl⟩))
  | staticMember | member | call => exact (ruled _ _).imp_right .inl
  | boundMember _ bound => exact .inr (.inl (isColumn bound))
  | accessor _ _ bound => exact .inr (.inl (isColumn bound))
  | binary _ _ combined =>
      exact (Lowering.binary_cases combined).imp_right
        fun ⟨_, _, node, _, _, given, _⟩ => .inl ⟨node, given⟩
  | @unary op operand valueType value operandLowered =>
      rcases Lowering.unary_cases lowerer.mappings op valueType value with
        given | ⟨_, rfl, given⟩ | ⟨_, _, _, _, given⟩ | ⟨_, _, _, given⟩ |
          ⟨_, _, _, given⟩
      · exact .inl given
      · exact .inr (.inr
          (.inr (.inl ⟨operand, value, valueType, rfl, operandLowered, given⟩)))
      · exact .inr (.inl ⟨_, given⟩)
      · exact .inr (.inl ⟨_, given⟩)
      · exact .inr (.inl ⟨_, given⟩)
  | construction => exact .inr (.inr (.inr (.inr (.inl ⟨_, rfl⟩))))
  | incompleteArgument | noConstruction => exact .inl rfl
  | extension => exact .inr (.inr (.inr (.inr (.inr ⟨_, _, rfl⟩))))

/-- Only an entity lowers to an entity. -/
theorem Lowers.eq_shaper
    {query : Query}
    {entity : EntityRef}
    (lowered : lowerer.Lowers select query (.shaper entity)) :
    query = .shaper entity := by
  rcases lowered.origin with
    ⟨⟨⟩⟩ | ⟨_, ⟨⟩⟩ | ⟨_, isShaper, ⟨⟩⟩ | ⟨_, _, _, _, _, ⟨⟩⟩ | ⟨_, ⟨⟩⟩ |
      ⟨_, _, ⟨⟩⟩
  exact isShaper

/-- An operand of an operator satisfies what all SQL in the result does. -/
theorem holds_of_operand?
    {value : Lowered}
    {node : Sql.Node}
    (everywhere : value.Everywhere (lowerer.Carries holds))
    (known : value.operand? = some node) :
    holds node := by
  rcases (Lowered.operand?_eq_some_iff value node).1 known with
    rfl | ⟨target, _, rfl⟩
  · exact everywhere.root
  · exact ((Lowered.everywhere_convert _ _).1 everywhere).2.root

/-- SQL in the place of a member's inner expression or of an argument satisfies
what all SQL in it does. -/
theorem holds_of_sql?
    {value : Lowered}
    {node : Sql.Node}
    (everywhere : value.Everywhere (lowerer.Carries holds))
    (known : value.sql? = some node) :
    holds node := by
  cases value with
  | sql given =>
      obtain rfl := Option.some.inj known
      exact everywhere.root
  | _ => cases known

/-- What rules make of a use satisfies what their expressions do. -/
theorem everywhere_applyRules
    {rules : List (Rule α)}
    {use : α}
    (matched : ∀ node, Rule.firstMatch? rules use = some node →
      holds (node.infer lowerer.mappings)) :
    (lowerer.applyRules rules use).Everywhere (lowerer.Carries holds) := by
  rcases lowerer.applyRules_cases rules use with nothing | ⟨node, known, given⟩
  · simp [nothing, Carries]
  · simpa [given, Carries] using matched node known

/-- The finished value of a field satisfies what the value does, if SQL does so
with its mappings. -/
theorem everywhere_finish
    {value : Lowered}
    (inferred : ∀ node, holds node → holds (node.infer lowerer.mappings))
    (everywhere : value.Everywhere (lowerer.Carries holds)) :
    (lowerer.finish false value).Everywhere (lowerer.Carries holds) := by
  cases value with
  | sql node =>
      rw [Lowered.everywhere_sql] at everywhere
      simpa [finish, Carries] using inferred node everywhere
  | _ => exact everywhere

/-- An expression in a finished result satisfies what all SQL in the result
does, if SQL does so with its mappings and as a condition. -/
theorem holds_of_partOf_finish
    {requireCondition : Bool}
    {raw : Lowered}
    {node : Sql.Node}
    (inferred : ∀ node, holds node → holds (node.infer lowerer.mappings))
    (tested : ∀ node, holds node →
      holds (node.toCondition lowerer.mappings.canonicalBoolean))
    (everywhere : raw.Everywhere (lowerer.Carries holds))
    (partOfResult :
      (Lowered.sql node).PartOf (lowerer.finish requireCondition raw)) :
    holds node := by
  cases raw with
  | sql rawNode =>
      have rawInferred := inferred rawNode everywhere.root
      rw [finish_sql, Lowered.partOf_sql_iff, Lowered.sql.injEq] at partOfResult
      rw [partOfResult]
      split
      · exact tested _ rawInferred
      · exact rawInferred
  | _ => exact everywhere _ partOfResult

namespace NodeInvariant

variable (invariant : lowerer.NodeInvariant select permits holds)

include invariant

theorem everywhere_bindProperty
    {entity : EntityRef}
    {name : String}
    {result : Lowered}
    (permitted : permits (.shaper entity))
    (bound : (lowerer.bindProperty select entity name).result = .ok result) :
    result.Everywhere (lowerer.Carries holds) := by
  obtain ⟨_, property, column, _, _, _, rfl⟩ :=
    (lowerer.result_bindProperty_eq_ok_iff select entity name result).1 bound
  simpa [Carries] using invariant.bound entity name _ permitted bound

theorem everywhere_fields
    {members : List String}
    {values : List Lowered}
    (everywhere : ∀ value, value ∈ values →
      value.Everywhere (lowerer.Carries holds)) :
    (Lowered.projection (lowerer.fields members values)).Everywhere
      (lowerer.Carries holds) := by
  have ofField : ∀ field, field ∈ lowerer.fields members values →
      ∃ value, value ∈ values ∧ lowerer.finish false value = field.2 := by
    intro field member
    exact List.mem_map.1 (List.of_mem_zip member).2
  rw [Lowered.everywhere_projection]
  constructor
  · intro field member node isSql
    obtain ⟨value, inValues, finished⟩ := ofField field member
    have valueEverywhere := everywhere value inValues
    rw [isSql] at finished
    cases value with
    | sql raw =>
        exact ⟨raw, valueEverywhere.root, by simpa [finish] using finished⟩
    | _ => cases finished
  · intro field member
    obtain ⟨value, inValues, finished⟩ := ofField field member
    rw [← finished]
    exact everywhere_finish invariant.inferred (everywhere value inValues)

/-- The built-in rules keep the invariant at members. -/
theorem builtInMember
    {use : MemberUse}
    {node : Sql.Node}
    (innerHolds : ∀ inner, use.innerSql? = some inner → holds inner)
    (matched : Rule.firstMatch? Rule.builtInMembers use = some node) :
    holds (node.infer lowerer.mappings) := by
  rcases Rule.builtInMember_cases matched with given | given | given
  · obtain ⟨_, _, inner, known, rfl⟩ :=
      (Rule.hasValue_eq_some_iff use node).1 given
    exact invariant.nullTest inner true (innerHolds inner known)
  · obtain ⟨_, _, inner, known, rfl⟩ :=
      (Rule.stringLength_eq_some_iff use node).1 given
    refine invariant.function _ _ _ ?_ ?_
    · simpa using .inl (innerHolds inner known)
    · rintro ⟨argument, member, nullable⟩
      obtain rfl := List.mem_singleton.1 member
      exact nullable
  · obtain ⟨_, ⟨_, _, rfl⟩ | ⟨keyword, operand, _, known, rfl⟩⟩ :=
      (Rule.dateTimeMember_eq_some_iff use node).1 given
    · exact invariant.inferred _ (invariant.fragment _ _)
    · refine invariant.function _ _ _ ?_ ?_
      · simpa using ⟨.inl (invariant.fragment keyword .string),
          .inl (innerHolds operand known)⟩
      · rintro ⟨argument, member, nullable⟩
        rcases List.mem_pair.1 member with rfl | rfl
        · cases nullable
        · exact nullable

/-- The built-in rules keep the invariant at calls. -/
theorem builtInCall
    {use : CallUse}
    {node : Sql.Node}
    (targetHolds : ∀ target, use.targetSql? = some target → holds target)
    (argumentsHold : ∀ argument, argument ∈ use.arguments →
      ∀ argumentNode, argument.sql? = some argumentNode → holds argumentNode)
    (matched : Rule.firstMatch? Rule.builtInCalls use = some node) :
    holds (node.infer lowerer.mappings) := by
  rcases Rule.builtInCall_cases matched with given | given | given
  · obtain ⟨_, _, left, right, leftKnown, rightKnown, rfl⟩ :=
      (Rule.equals_eq_some_iff use node).1 given
    obtain ⟨argument, only, argumentKnown⟩ :=
      (CallUse.onlyArgumentSql?_eq_some_iff use right).1 rightKnown
    exact invariant.comparison .equal left right rfl
      (targetHolds left leftKnown)
      (argumentsHold argument (by simp [only]) right argumentKnown)
  · obtain ⟨_, _, target, _, _, pattern, targetKnown, _, _, _, _, rfl⟩ :=
      (Rule.stringSearch_eq_some_iff use node).1 given
    exact invariant.comparison .like target _ rfl
      (targetHolds target targetKnown) (invariant.constant _ _)
  · obtain ⟨function, leading, rest, _, _, leadingKnown, restKnown, rfl⟩ :=
      (Rule.functionCall_eq_some_iff use node).1 given
    have givenHold : ∀ argument, argument ∈ leading ++ rest →
        holds argument := by
      intro argument member
      rcases List.mem_append.1 member with inLeading | inRest
      · unfold Rule.leadingArguments? at leadingKnown
        split at leadingKnown
        · obtain ⟨target, targetKnown, rfl⟩ :=
            Option.map_eq_some_iff.1 leadingKnown
          obtain rfl := List.mem_singleton.1 inLeading
          exact targetHolds argument targetKnown
        · obtain rfl := Option.some.inj leadingKnown
          cases inLeading
      · obtain ⟨value, inArguments, known⟩ :=
          CallUse.sql?_of_mem_argumentsSql? restKnown inRest
        exact argumentsHold value inArguments argument known
    refine invariant.function _ _ _ ?_ ?_
    · intro argument member
      rcases Rule.SqlFunction.mem_adjust member with
        isGiven | ⟨value, rfl⟩ | ⟨start, isGiven, rfl⟩
      · exact .inl (givenHold argument isGiven)
      · exact .inl (invariant.constant _ _)
      · exact .inr ⟨start, givenHold start isGiven, rfl⟩
    · rintro ⟨argument, member, nullable⟩
      exact Bool.or_eq_true_iff.2
        (.inr (Rule.SqlFunction.nullable_of_mem_adjust member nullable))

theorem everywhere_binary
    {op : Query.BinaryOp}
    {left right : Query}
    {method : Option Method}
    {valueType : ValueType}
    {leftValue rightValue result : Lowered}
    (permitted : permits (.binary op left right method valueType))
    (leftEverywhere : leftValue.Everywhere (lowerer.Carries holds))
    (rightEverywhere : rightValue.Everywhere (lowerer.Carries holds))
    (combined :
      Lowering.binary lowerer.mappings op method valueType leftValue
          rightValue =
        .ok result) :
    result.Everywhere (lowerer.Carries holds) := by
  rcases Lowering.binary_cases combined with
    rfl | ⟨leftNode, rightNode, node, leftKnown, rightKnown, rfl, built⟩
  · simp [Carries]
  · rw [Lowered.everywhere_sql]
    have leftHolds := holds_of_operand? leftEverywhere leftKnown
    have rightHolds := holds_of_operand? rightEverywhere rightKnown
    rcases built with ⟨_, concatenated⟩ | ⟨_, rfl⟩
    · exact invariant.concatenation _ _ _ leftHolds rightHolds concatenated
    · rcases Lowering.combination_cases lowerer.mappings op valueType leftNode
        rightNode with
        ⟨operand, negated, isOperand, _, tested⟩ | ⟨logical, joined⟩ |
          ⟨notLogical, applied⟩
      · rw [tested]
        rcases isOperand with rfl | rfl
        · exact invariant.nullTest _ _ leftHolds
        · exact invariant.nullTest _ _ rightHolds
      · rw [joined]
        exact invariant.junction _ _ _ _ _ _ _ permitted logical leftHolds
          rightHolds
      · rw [applied]
        exact invariant.combination _ _ _ _ _ _ _ permitted notLogical leftHolds
          rightHolds

theorem everywhere_unary
    {op : Query.UnaryOp}
    {operand : Query}
    {valueType : ValueType}
    {value : Lowered}
    (permitted : permits (.unary op operand valueType))
    (everywhere : value.Everywhere (lowerer.Carries holds)) :
    (Lowering.unary lowerer.mappings op valueType value).Everywhere
      (lowerer.Carries holds) := by
  rcases Lowering.unary_cases lowerer.mappings op valueType value with
    nothing | ⟨_, _, kept⟩ | ⟨node, rfl, _, notErased, given⟩ |
      ⟨node, known, rfl, given⟩ |
    ⟨node, known, _, given⟩
  · simp [nothing, Carries]
  · rw [kept, Lowered.everywhere_convert]
    exact ⟨trivial, everywhere⟩
  · rw [given, Lowered.everywhere_sql]
    exact invariant.cast node valueType notErased everywhere.root
  · rw [given, Lowered.everywhere_sql]
    exact invariant.not operand valueType node permitted
      (holds_of_operand? everywhere known)
  · rw [given, Lowered.everywhere_sql]
    exact invariant.negate node valueType (holds_of_operand? everywhere known)

/-- With the built-in rules, an invariant holds of every expression in what a
permitted query lowers to. -/
theorem everywhere
    (builtIn : lowerer.HasBuiltInRules)
    {query : Query}
    {result : Lowered}
    (permitted : query.Everywhere permits)
    (lowered : lowerer.Lowers select query result) :
    result.Everywhere (lowerer.Carries holds) := by
  induction lowered with
  | constant value valueType =>
      simpa [Carries] using invariant.constant value valueType
  | parameter name valueType =>
      simpa [Carries] using invariant.parameter name valueType
  | shaper entity => simp [Carries]
  | staticMember member =>
      refine everywhere_applyRules fun node matched => ?_
      rw [builtIn.members] at matched
      exact invariant.builtInMember (by rintro _ ⟨⟩) matched
  | @boundMember inner entity member result innerLowered bound =>
      obtain rfl := innerLowered.eq_shaper
      have entityPermitted : (Query.shaper entity).Everywhere permits :=
        permitted.child (by simp [Query.children])
      exact invariant.everywhere_bindProperty entityPermitted.root bound
  | @nullableValue inner node member _ isValue inductionHypothesis =>
      have innerEverywhere :=
        inductionHypothesis (permitted.child (by simp [Query.children]))
      rw [Lowered.everywhere_sql]
      exact invariant.nonNullable inner member node permitted.root isValue
        innerEverywhere.root
  | member _ _ _ inductionHypothesis =>
      have innerEverywhere :=
        inductionHypothesis (permitted.child (by simp [Query.children]))
      refine everywhere_applyRules fun node matched => ?_
      rw [builtIn.members] at matched
      refine invariant.builtInMember ?_ matched
      intro innerNode known
      exact holds_of_sql? innerEverywhere known
  | @accessor target method first rest name entity result _ firstLowered
      bound =>
      obtain rfl := firstLowered.eq_shaper
      have entityPermitted : (Query.shaper entity).Everywhere permits :=
        permitted.child (by simp [Query.children])
      exact invariant.everywhere_bindProperty entityPermitted.root bound
  | @call target method arguments targetValue values sameShape _ sameLength _ _
      targetHypothesis argumentsHypothesis =>
      refine everywhere_applyRules fun node matched => ?_
      rw [builtIn.calls] at matched
      refine invariant.builtInCall ?_ ?_ matched
      · intro targetNode known
        obtain ⟨value, valueKnown, isSql⟩ := Option.bind_eq_some_iff.1 known
        obtain ⟨query, queryKnown⟩ :=
          Option.isSome_iff_exists.1
            (sameShape.trans (Option.isSome_of_eq_some valueKnown))
        exact holds_of_sql? (targetHypothesis query value queryKnown valueKnown
          (permitted.child (by simp [Query.children, queryKnown]))) isSql
      · intro value member argumentNode isSql
        obtain ⟨argument, paired⟩ := exists_paired sameLength member
        have inArguments := (List.of_mem_zip paired).1
        exact holds_of_sql? (argumentsHypothesis (argument, value) paired
          (permitted.child (by simp [Query.children, inArguments]))) isSql
  | binary _ _ combined leftHypothesis rightHypothesis =>
      exact invariant.everywhere_binary permitted.root
        (leftHypothesis (permitted.child (by simp [Query.children])))
        (rightHypothesis (permitted.child (by simp [Query.children]))) combined
  | unary _ inductionHypothesis =>
      exact invariant.everywhere_unary permitted.root
        (inductionHypothesis (permitted.child (by simp [Query.children])))
  | construction _ _ sameCount _ _ inductionHypothesis =>
      refine invariant.everywhere_fields ?_
      intro value member
      obtain ⟨argument, paired⟩ := exists_paired sameCount member
      exact inductionHypothesis (argument, value) paired
        (permitted.child (List.of_mem_zip paired).1)
  | incompleteArgument | noConstruction => simp [Carries]
  | extension sameLength _ inductionHypothesis =>
      rw [Lowered.everywhere_extension]
      refine ⟨trivial, ?_⟩
      intro value member
      obtain ⟨child, paired⟩ := exists_paired sameLength member
      exact inductionHypothesis (child, value) paired
        (permitted.child (List.of_mem_zip paired).1)

end NodeInvariant
end
end Lowerer
end QueryLowering
