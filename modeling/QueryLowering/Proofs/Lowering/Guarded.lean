import QueryLowering.Proofs.Lowering.Invariant
import QueryLowering.Proofs.Sql.Guarded

/-!
# Truth values in results are guarded

With the built-in rules and mappings, lowering guards truth values wherever it
builds a negation or a junction, whatever mappings the select context gives to
columns. The one exception is the untyped null constant beside an operand that
is mapped as a truth value.
-/

namespace QueryLowering
namespace Lowerer

open Sql.Node (StaysGuarded IsGuarded)

/-- A text operand of a concatenation keeps guarded operands guarded. -/
theorem everywhere_staysGuarded_asText
    {source : MappingSource}
    {mapping : TypeMapping}
    {operand : Sql.Node}
    (everywhere : operand.Everywhere (StaysGuarded source)) :
    (Lowering.asText mapping operand).Everywhere (StaysGuarded source) := by
  unfold Lowering.asText
  split
  · exact Sql.Node.everywhere_staysGuarded_withHeader everywhere (fun _ => rfl)
  · exact Sql.Node.everywhere_staysGuarded_apply (by decide) everywhere

/-- Whatever is built and then inferred is guarded, if it is before. -/
theorem isGuarded_built
    {source : MappingSource}
    {node : Sql.Node}
    (everywhere : node.Everywhere (StaysGuarded source))
    (notNull : node.isNullConstant = false) :
    (node.infer source).IsGuarded source :=
  Sql.Node.isGuarded_of_not_null
    (Sql.Node.everywhere_staysGuarded_infer node everywhere)
    (by simpa using notNull)

/-- Lowering builds guarded expressions alone, if the mappings of the lowerer
cover all kinds. -/
theorem isGuarded_invariant
    (lowerer : Lowerer)
    (select : Select)
    (covers : lowerer.mappings.Covers) :
    lowerer.NodeInvariant select (fun _ => True)
      (IsGuarded lowerer.mappings) where
  constant value valueType :=
    ⟨(Sql.Node.everywhere_leaf _ _).2 trivial, fun _ => ⟨rfl, rfl⟩⟩
  parameter name valueType :=
    ⟨(Sql.Node.everywhere_leaf _ _).2 trivial, fun _ => ⟨rfl, rfl⟩⟩
  fragment sql valueType :=
    ⟨(Sql.Node.everywhere_leaf _ _).2 trivial, fun _ => ⟨rfl, rfl⟩⟩
  bound entity name node _ bound := by
    obtain ⟨_, property, column, _, _, _, isColumn⟩ :=
      (lowerer.result_bindProperty_eq_ok_iff select entity name _).1 bound
    obtain rfl := Lowered.sql.inj isColumn
    exact Sql.Node.isGuarded_of_not_null
      ((Sql.Node.everywhere_leaf _ _).2 trivial) rfl
  nonNullable inner member node _ _ guarded :=
    Sql.Node.isGuarded_toNonNullable guarded
  inferred node guarded := Sql.Node.isGuarded_infer covers guarded
  nullTest operand negated guarded :=
    isGuarded_built
      (Sql.Node.everywhere_staysGuarded_apply (by simp) guarded.everywhere) rfl
  comparison op left right isComparison leftGuarded rightGuarded := by
    have notLogical : op.isLogical = false := by
      cases op <;> first | rfl | cases isComparison
    exact isGuarded_built (Sql.Node.everywhere_staysGuarded_combine notLogical
      leftGuarded.everywhere rightGuarded.everywhere) rfl
  combination op left right method valueType leftNode rightNode _ notLogical
    leftGuarded rightGuarded :=
    isGuarded_built (Sql.Node.everywhere_staysGuarded_combine
        (by simpa using notLogical) leftGuarded.everywhere
        rightGuarded.everywhere) rfl
  junction op left right method valueType leftNode rightNode _ logical
    leftGuarded rightGuarded := by
    refine Sql.Node.isGuarded_of_not_null
      (Sql.Node.everywhere_staysGuarded_infer_junction (by simpa using logical)
        (Sql.Node.isConditionOperand_conditionOperand covers leftGuarded)
        (Sql.Node.isConditionOperand_conditionOperand covers rightGuarded)) ?_
    rw [Sql.Node.isNullConstant_infer]
    rfl
  concatenation left right node leftGuarded rightGuarded concatenated := by
    obtain ⟨mapping, _, rfl⟩ :=
      (Lowering.concatenation_eq_ok_iff _ _ _ _).1 concatenated
    have operandEverywhere : ∀ operand : Sql.Node,
        operand.IsGuarded lowerer.mappings →
        (Lowering.asText mapping (operand.infer lowerer.mappings)).Everywhere
          (StaysGuarded lowerer.mappings) := by
      intro operand guarded
      exact everywhere_staysGuarded_asText
        (Sql.Node.everywhere_staysGuarded_infer operand guarded.everywhere)
    exact Sql.Node.isGuarded_of_not_null
      (Sql.Node.everywhere_staysGuarded_combine rfl
        (operandEverywhere left leftGuarded)
        (operandEverywhere right rightGuarded)) rfl
  cast operand valueType _ guarded :=
    isGuarded_built
      (Sql.Node.everywhere_staysGuarded_apply (by decide) guarded.everywhere)
      rfl
  not operand valueType node _ guarded := by
    have conditionOperand :=
      Sql.Node.isConditionOperand_conditionOperand covers guarded
    exact isGuarded_built ((Sql.Node.everywhere_apply _ _ _).2
      ⟨⟨fun _ => conditionOperand.notBare, fun _ => conditionOperand.keeps⟩,
        conditionOperand.guarded.everywhere⟩) rfl
  negate operand valueType guarded :=
    isGuarded_built
      (Sql.Node.everywhere_staysGuarded_apply (by decide) guarded.everywhere)
      rfl
  function name arguments valueType argumentsHold _ := by
    refine isGuarded_built ((Sql.Node.everywhere_call _ _ _).2 ⟨trivial, ?_⟩)
      rfl
    intro argument member
    rcases argumentsHold argument member with guarded | ⟨start, guarded, rfl⟩
    · exact guarded.everywhere
    · exact Sql.Node.everywhere_staysGuarded_combine rfl guarded.everywhere
        ((Sql.Node.everywhere_leaf _ _).2 trivial)

/-- With the built-in rules and mappings, the operand of a negation is never a
bare truth value, and one of a junction is so exactly when it is the untyped
null constant beside an operand that is mapped as a truth value. Where a
condition is required, the root is no bare truth value. -/
theorem lower_guardsTruth
    (dialect : Dialect)
    (model : EntityModel)
    (settings : Settings)
    (select : Select)
    (query : Query)
    (requireCondition : Bool)
    (result : Lowered)
    (lowered :
      ((withBuiltInRules model dialect.mappings settings).lower
        select query requireCondition).1 = .ok result) :
    (∀ node, (Lowered.sql node).PartOf result →
        node.Everywhere Sql.Node.GuardsTruth) ∧
      (requireCondition = true → ∀ node, result = .sql node →
        ¬ node.IsBareTruth) := by
  have covers := dialect.mappings_covers
  obtain ⟨_, raw, given, rfl⟩ := (lower_eq_ok_iff _ _ _ _ _).1 lowered
  have everywhere := (isGuarded_invariant _ select covers).everywhere
    (hasBuiltInRules_withBuiltInRules model dialect.mappings settings)
    (fun _ _ => trivial) given
  have weaken : ∀ node : Sql.Node,
      node.Everywhere (StaysGuarded dialect.mappings) →
      node.Everywhere Sql.Node.GuardsTruth :=
    fun _ stays => stays.mono fun _ => Sql.Node.guardsTruth_of_staysGuarded
  cases raw with
  | sql rawNode =>
      have guarded : rawNode.IsGuarded dialect.mappings := everywhere.root
      have inferred :=
        Sql.Node.everywhere_staysGuarded_infer rawNode guarded.everywhere
      rw [finish_sql]
      constructor
      · intro node partOfResult
        obtain rfl :=
          Lowered.sql.inj ((Lowered.partOf_sql_iff _ _).1 partOfResult)
        split
        · exact weaken _ (Sql.Node.everywhere_staysGuarded_toCondition inferred)
        · exact weaken _ inferred
      · rintro rfl node isNode
        obtain rfl := Lowered.sql.inj isNode
        exact Sql.Node.not_isBareTruth_toCondition _ _
  | _ =>
      constructor
      · intro node partOfResult
        have guarded : node.IsGuarded dialect.mappings :=
          everywhere _ partOfResult
        exact weaken node guarded.everywhere
      · rintro _ _ ⟨⟩

/-- A negated flag is tested for truth below the negation. -/
theorem lower_guardsTruth_negatedFlag :
    let bit := Dialect.sqlServer.booleanMapping
    let flag := Sql.Node.leaf ⟨.boolean, some bit, false⟩ (.parameter "active")
    let test :=
      Sql.Node.combine ⟨.boolean, some bit, true⟩ .equal flag (.truth bit)
    let node := Sql.Node.apply ⟨.boolean, some bit, true⟩ .not test
    ((withBuiltInRules .empty Dialect.sqlServer.mappings .standard).lower
      (.empty Dialect.sqlServer.mappings)
      (.unary .not (.parameter "active" .boolean) .boolean) true).1 =
      .ok (.sql node) ∧
      node.Everywhere Sql.Node.GuardsTruth ∧ ¬ node.IsBareTruth := by
  intro bit flag test node
  have lowered :
      ((withBuiltInRules .empty Dialect.sqlServer.mappings .standard).lower
        (.empty Dialect.sqlServer.mappings)
        (.unary .not (.parameter "active" .boolean) .boolean) true).1 =
        .ok (.sql node) := by
    cbv
  have guards :=
    lower_guardsTruth .sqlServer .empty .standard _ _ true _ lowered
  exact ⟨lowered, guards.1 node .self, guards.2 rfl node rfl⟩

/-- The null constant has no mapping yet when it is made a condition, and ends
as a bare truth value beside the comparison. -/
theorem lower_bareNull :
    let adult := Query.binary .greaterThan (.parameter "age" .int32)
      (.constant (.integer 18) .int32) none .boolean
    let bit := Dialect.sqlServer.booleanMapping
    let null :=
      Sql.Node.leaf ⟨.orNull .object, some bit, false⟩ (.constant .null)
    let comparison :=
      (Sql.Node.binary .greaterThan (.parameter "age" .int32)
        (.constant (.integer 18) .int32)
        .boolean).infer Dialect.sqlServer.mappings
    ((withBuiltInRules .empty Dialect.sqlServer.mappings .standard).lower
      (.empty Dialect.sqlServer.mappings)
          (.binary .andAlso .null adult none .boolean) false).1 =
        .ok (.sql (.combine ⟨.boolean, some bit, true⟩ .and null comparison)) ∧
      null.IsBareTruth := by
  intro adult bit null comparison
  constructor
  · cbv
  · exact ⟨⟨bit, rfl, by decide⟩, rfl⟩

end Lowerer
end QueryLowering
