import QueryLowering.Proofs.Lowering.Invariant
import QueryLowering.Proofs.Sql.Conditions

/-!
# Conditions in results are marked

With the built-in rules, lowering builds marked expressions alone, whatever the
source of mappings is and whichever mappings the select context gives to
columns: a node is flagged as a condition exactly when its form denotes one, and
every condition carries the canonical mapping of the source.
-/

namespace QueryLowering
namespace Lowerer

open Sql.Node (StaysMarked MarksCondition)

/-- A text operand of a concatenation is marked: a text is no condition, and
neither is a cast. -/
theorem everywhere_staysMarked_asText
    {canonical mapping : TypeMapping}
    {operand : Sql.Node}
    (everywhere : operand.Everywhere (StaysMarked canonical)) :
    (Lowering.asText mapping operand).Everywhere (StaysMarked canonical) := by
  unfold Lowering.asText
  split
  · next textual =>
      exact Sql.Node.everywhere_staysMarked_withMapping mapping everywhere
        (Sql.Node.isCondition_eq_false_of_isTextual everywhere.root textual)
  · exact (Sql.Node.everywhere_apply _ _ _).2
      ⟨Sql.Node.staysMarked_of_value rfl (by simp [Sql.Node.IsConditionForm]),
        everywhere⟩

/-- An operand of a logical operator is marked. -/
theorem everywhere_staysMarked_conditionOperand
    {source : MappingSource}
    {operand : Sql.Node}
    (everywhere : operand.Everywhere (StaysMarked source.canonicalBoolean)) :
    (Lowering.conditionOperand source operand).Everywhere
      (StaysMarked source.canonicalBoolean) :=
  Sql.Node.everywhere_staysMarked_toCondition
    (Sql.Node.everywhere_staysMarked_infer operand everywhere)

/-- Lowering builds marked expressions alone. -/
theorem staysMarked_invariant (lowerer : Lowerer) (select : Select) :
    lowerer.NodeInvariant select Query.DeclaresTruth
      (Sql.Node.Everywhere
        (StaysMarked lowerer.mappings.canonicalBoolean)) where
  constant value valueType := Sql.Node.staysMarked_leaf _ rfl
  parameter name valueType := Sql.Node.staysMarked_leaf _ rfl
  fragment sql valueType := Sql.Node.staysMarked_leaf _ rfl
  bound entity name node _ bound := by
    obtain ⟨_, property, column, _, _, _, isColumn⟩ :=
      (lowerer.result_bindProperty_eq_ok_iff select entity name _).1 bound
    obtain rfl := Lowered.sql.inj isColumn
    exact Sql.Node.staysMarked_leaf _ rfl
  nonNullable inner member node _ _ marked :=
    Sql.Node.everywhere_staysMarked_toNonNullable marked
  inferred node marked := Sql.Node.everywhere_staysMarked_infer node marked
  nullTest operand negated marked :=
    Sql.Node.everywhere_staysMarked_infer_apply rfl
      (by simp [Sql.Node.IsConditionForm]) (fun _ => rfl)
      (Sql.Node.everywhere_staysMarked_infer operand marked)
  comparison op left right _ leftMarked rightMarked :=
    Sql.Node.everywhere_staysMarked_infer_binary (fun _ => rfl) leftMarked
      rightMarked
  combination op left right method valueType leftNode rightNode declared
    notLogical leftMarked rightMarked := by
    refine Sql.Node.everywhere_staysMarked_infer_binary ?_ leftMarked
      rightMarked
    intro condition
    exact declared (by simpa [Sql.BinaryOp.isCondition] using condition)
  junction op left right method valueType leftNode rightNode declared logical
    leftMarked rightMarked :=
    Sql.Node.everywhere_staysMarked_infer_binary
      (fun _ => declared (.inr logical))
      (everywhere_staysMarked_conditionOperand leftMarked)
      (everywhere_staysMarked_conditionOperand rightMarked)
  concatenation left right node leftMarked rightMarked concatenated := by
    obtain ⟨mapping, _, rfl⟩ :=
      (Lowering.concatenation_eq_ok_iff _ _ _ _).1 concatenated
    refine (Sql.Node.everywhere_combine _ _ _ _).2 ⟨?_, ?_, ?_⟩
    · refine Sql.Node.staysMarked_of_value rfl ?_
      simp [Sql.Node.IsConditionForm, Sql.BinaryOp.mem_conditions_iff,
        Sql.BinaryOp.isCondition, Sql.BinaryOp.isComparison,
        Sql.BinaryOp.isLogical]
    · exact everywhere_staysMarked_asText
        (Sql.Node.everywhere_staysMarked_infer left leftMarked)
    · exact everywhere_staysMarked_asText
        (Sql.Node.everywhere_staysMarked_infer right rightMarked)
  cast operand valueType _ marked :=
    Sql.Node.everywhere_staysMarked_infer_apply rfl
      (by simp [Sql.Node.IsConditionForm]) (by rintro ⟨⟩)
      (Sql.Node.everywhere_staysMarked_infer operand marked)
  not operand valueType node declared marked :=
    Sql.Node.everywhere_staysMarked_infer_apply rfl
      (by simp [Sql.Node.IsConditionForm, Sql.Node.isCondition])
      (fun _ => declared rfl)
      (Sql.Node.everywhere_staysMarked_infer _
        (everywhere_staysMarked_conditionOperand marked))
  negate operand valueType marked :=
    Sql.Node.everywhere_staysMarked_infer_apply rfl
      (by simp [Sql.Node.IsConditionForm]) (by rintro ⟨⟩)
      (Sql.Node.everywhere_staysMarked_infer operand marked)
  function name arguments valueType argumentsHold _ := by
    refine Sql.Node.everywhere_staysMarked_infer_call rfl rfl ?_
    intro argument member
    rcases argumentsHold argument member with marked | ⟨start, marked, rfl⟩
    · exact Sql.Node.everywhere_staysMarked_infer argument marked
    · exact Sql.Node.everywhere_staysMarked_infer_binary (by rintro ⟨⟩) marked
        (Sql.Node.staysMarked_leaf _ rfl)

/-- Finishing the root leaves all expressions marked. -/
theorem everywhere_staysMarked_finish
    {lowerer : Lowerer}
    {requireCondition : Bool}
    {raw : Lowered}
    {node : Sql.Node}
    (everywhere : raw.Everywhere
      (lowerer.Carries
        (Sql.Node.Everywhere (StaysMarked lowerer.mappings.canonicalBoolean))))
    (partOfResult :
      (Lowered.sql node).PartOf (lowerer.finish requireCondition raw)) :
    node.Everywhere (StaysMarked lowerer.mappings.canonicalBoolean) :=
  holds_of_partOf_finish Sql.Node.everywhere_staysMarked_infer
    (fun _ => Sql.Node.everywhere_staysMarked_toCondition) everywhere
    partOfResult

/-- With the built-in rules and any source of mappings, in every expression of a
result a node is flagged as a condition exactly when it is a null test, a binary
node whose operator gives a condition, or the negation of a condition, and every
condition carries the canonical mapping of the source. -/
theorem lower_marksConditions
    (model : EntityModel)
    (source : MappingSource)
    (settings : Settings)
    (select : Select)
    (query : Query)
    (requireCondition : Bool)
    (result : Lowered)
    (node : Sql.Node)
    (declared : query.Everywhere Query.DeclaresTruth)
    (lowered : ((withBuiltInRules model source settings).lower
      select query requireCondition).1 = .ok result)
    (partOfResult : (Lowered.sql node).PartOf result) :
    node.Everywhere (MarksCondition source.canonicalBoolean) := by
  obtain ⟨_, raw, given, rfl⟩ := (lower_eq_ok_iff _ _ _ _ _).1 lowered
  have everywhere := (staysMarked_invariant _ select).everywhere
    (hasBuiltInRules_withBuiltInRules model source settings) declared given
  have marked := everywhere_staysMarked_finish everywhere partOfResult
  exact marked.mono fun _ stays => stays.marks

/-- Inside an extension node, a junction, the comparison and the negated null
test that it joins, and the null test below the negation are conditions under
the canonical mapping of a host. -/
theorem lower_marksConditions_junction :
    let logical := TypeMapping.ofStoreType "logical" .boolean
    let source : MappingSource := ⟨Dialect.ansi.mappings.find, logical⟩
    let name := Query.parameter "name" .string
    let missing := Query.binary .equal .null name none .boolean
    let early :=
      Query.binary .lessThan name (.parameter "limit" .string) none .boolean
    let junction :=
      Query.binary .andAlso (.unary .not missing .boolean) early none .boolean
    let query := Query.extension "Rows" [junction]
    let ofText : Sql.Header := ⟨.string, Dialect.ansi.mapping? .string, false⟩
    let ofTruth : Sql.Header := ⟨.boolean, some logical, true⟩
    let stored := Sql.Node.leaf ofText (.parameter "name")
    let node := Sql.Node.combine ofTruth .and
      (.apply ofTruth .not (.apply ofTruth (.nullTest false) stored))
      (.combine ofTruth .lessThan stored (.leaf ofText (.parameter "limit")))
    query.Everywhere Query.DeclaresTruth ∧
      ((withBuiltInRules .empty source .standard).lower
          (.empty Dialect.ansi.mappings) query true).1 =
        .ok (.extension "Rows" [.sql node]) ∧
      node.Everywhere (MarksCondition logical) := by
  intro logical source name missing early junction query ofText ofTruth stored
    node
  have nameDeclared : name.Everywhere Query.DeclaresTruth :=
    (Query.everywhere_parameter _ _).2 trivial
  have missingDeclared : missing.Everywhere Query.DeclaresTruth :=
    (Query.everywhere_binary _ _ _ _ _).2
      ⟨fun _ => rfl, (Query.everywhere_constant _ _).2 trivial, nameDeclared⟩
  have earlyDeclared : early.Everywhere Query.DeclaresTruth :=
    (Query.everywhere_binary _ _ _ _ _).2
      ⟨fun _ => rfl, nameDeclared, (Query.everywhere_parameter _ _).2 trivial⟩
  have negationDeclared :
      (Query.unary .not missing .boolean).Everywhere Query.DeclaresTruth :=
    (Query.everywhere_unary _ _ _).2 ⟨fun _ => rfl, missingDeclared⟩
  have junctionDeclared : junction.Everywhere Query.DeclaresTruth :=
    (Query.everywhere_binary _ _ _ _ _).2
      ⟨fun _ => rfl, negationDeclared, earlyDeclared⟩
  have declared : query.Everywhere Query.DeclaresTruth :=
    (Tree.everywhere_iff query).2 ⟨trivial, by simpa [query, Query.children]⟩
  have lowered : ((withBuiltInRules .empty source .standard).lower
      (.empty Dialect.ansi.mappings) query true).1 =
      .ok (.extension "Rows" [.sql node]) := by
    cbv
  refine ⟨declared, lowered, ?_⟩
  exact lower_marksConditions .empty source .standard _ query true _ node
    declared lowered (.ofChild (.head _) .self)

end Lowerer
end QueryLowering
