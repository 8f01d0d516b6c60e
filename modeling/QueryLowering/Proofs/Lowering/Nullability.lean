import QueryLowering.Proofs.Lowering.Invariant

/-!
# Null is passed on in results

With the built-in rules, lowering declares every cast, concatenation and
function call as nullable if an operand is, whatever the sources of mappings
are. A node loses its declared nullability in one place alone: where a query
takes the value out of a nullable expression.
-/

namespace QueryLowering

/-- The node does not take the value out of a nullable one. -/
def Query.KeepsNull : Query → Prop
  | .access _ member => member.isNullableValue = false
  | _ => True

namespace Lowerer

open Sql.Node (PassesNullOn)

/-- A text operand of a concatenation passes null on as the operand does. -/
@[simp] theorem everywhere_passesNullOn_asText
    (mapping : TypeMapping)
    (operand : Sql.Node) :
    (Lowering.asText mapping operand).Everywhere PassesNullOn ↔
      operand.Everywhere PassesNullOn := by
  unfold Lowering.asText
  split
  · exact Sql.Node.everywhere_passesNullOn_withMapping operand mapping
  · rw [Sql.Node.everywhere_passesNullOn_withMapping,
      Sql.Node.everywhere_passesNullOn_cast]

/-- An operand of a logical operator passes null on if the node in its place
does. -/
theorem everywhere_passesNullOn_conditionOperand
    {source : MappingSource}
    {operand : Sql.Node}
    (everywhere : operand.Everywhere PassesNullOn) :
    (Lowering.conditionOperand source operand).Everywhere PassesNullOn :=
  Sql.Node.everywhere_passesNullOn_toCondition
    ((Sql.Node.everywhere_passesNullOn_infer source operand).2 everywhere)

/-- Lowering builds expressions that pass null on, apart from the values of
nullable ones. -/
theorem passesNullOn_invariant (lowerer : Lowerer) (select : Select) :
    lowerer.NodeInvariant select Query.KeepsNull
      (Sql.Node.Everywhere PassesNullOn) where
  constant value valueType := (Sql.Node.everywhere_leaf _ _).2 trivial
  parameter name valueType := (Sql.Node.everywhere_leaf _ _).2 trivial
  fragment sql valueType := (Sql.Node.everywhere_leaf _ _).2 trivial
  bound entity name node _ bound := by
    obtain ⟨_, property, column, _, _, _, isColumn⟩ :=
      (lowerer.result_bindProperty_eq_ok_iff select entity name _).1 bound
    obtain rfl := Lowered.sql.inj isColumn
    exact (Sql.Node.everywhere_leaf _ _).2 trivial
  nonNullable inner member node keepsNull isValue := by
    rw [Query.KeepsNull, isValue] at keepsNull
    cases keepsNull
  inferred node passes :=
    (Sql.Node.everywhere_passesNullOn_infer _ node).2 passes
  nullTest operand negated passes := by
    rw [Sql.Node.everywhere_passesNullOn_infer]
    exact (Sql.Node.everywhere_apply _ _ _).2 ⟨trivial, passes⟩
  comparison op left right isComparison leftPasses rightPasses := by
    rw [Sql.Node.everywhere_passesNullOn_infer,
      Sql.Node.everywhere_passesNullOn_binary_iff
        (by rintro rfl; cases isComparison)]
    exact ⟨leftPasses, rightPasses⟩
  combination op left right method valueType leftNode rightNode _ _ leftPasses
    rightPasses := by
    rw [Sql.Node.everywhere_passesNullOn_infer,
      Sql.Node.everywhere_passesNullOn_binary_iff op.toSql_ne_concat]
    exact ⟨leftPasses, rightPasses⟩
  junction op left right method valueType leftNode rightNode _ _ leftPasses
    rightPasses := by
    rw [Sql.Node.everywhere_passesNullOn_infer,
      Sql.Node.everywhere_passesNullOn_binary_iff op.toSql_ne_concat]
    exact ⟨everywhere_passesNullOn_conditionOperand leftPasses,
      everywhere_passesNullOn_conditionOperand rightPasses⟩
  concatenation left right node leftPasses rightPasses concatenated := by
    obtain ⟨mapping, _, rfl⟩ :=
      (Lowering.concatenation_eq_ok_iff _ _ _ _).1 concatenated
    rw [Sql.Node.everywhere_passesNullOn_withMapping]
    refine (Sql.Node.everywhere_combine _ _ _ _).2 ⟨?_, ?_, ?_⟩
    · -- the type is declared nullable if that of either text is
      exact Bool.or_eq_true_iff.2
    · simpa using leftPasses
    · simpa using rightPasses
  cast operand valueType _ passes := by simpa using passes
  not operand valueType node _ passes := by
    rw [Sql.Node.everywhere_passesNullOn_infer]
    exact (Sql.Node.everywhere_apply _ _ _).2
      ⟨trivial, everywhere_passesNullOn_conditionOperand passes⟩
  negate operand valueType passes := by
    rw [Sql.Node.everywhere_passesNullOn_infer]
    exact (Sql.Node.everywhere_apply _ _ _).2 ⟨trivial, passes⟩
  function name arguments valueType argumentsHold passesNullOn := by
    rw [Sql.Node.everywhere_passesNullOn_infer]
    refine (Sql.Node.everywhere_call _ _ _).2 ⟨passesNullOn, ?_⟩
    intro argument member
    rcases argumentsHold argument member with passes | ⟨start, passes, rfl⟩
    · exact passes
    · exact (Sql.Node.everywhere_passesNullOn_binary_iff (by decide) _ _ _).2
        ⟨passes, (Sql.Node.everywhere_leaf _ _).2 trivial⟩

/-- With the built-in rules and any sources of mappings, in every expression of
a result each cast, concatenation and function call is nullable if an operand
is, unless the query takes the value out of a nullable expression. -/
theorem lower_passesNullOn
    (model : EntityModel)
    (source : MappingSource)
    (settings : Settings)
    (select : Select)
    (query : Query)
    (requireCondition : Bool)
    (result : Lowered)
    (node : Sql.Node)
    (keepsNull : query.Everywhere Query.KeepsNull)
    (lowered : ((withBuiltInRules model source settings).lower
      select query requireCondition).1 = .ok result)
    (partOfResult : (Lowered.sql node).PartOf result) :
    node.Everywhere PassesNullOn := by
  obtain ⟨_, raw, given, rfl⟩ := (lower_eq_ok_iff _ _ _ _ _).1 lowered
  have everywhere := (passesNullOn_invariant _ select).everywhere
    (hasBuiltInRules_withBuiltInRules model source settings) keepsNull given
  refine holds_of_partOf_finish ?_ ?_ everywhere partOfResult
  · exact fun node => (Sql.Node.everywhere_passesNullOn_infer _ node).2
  · exact fun _ => Sql.Node.everywhere_passesNullOn_toCondition

/-- Inside an extension node, a nullable column makes its length nullable, and
this makes the text of the length and the concatenation with another text
nullable. -/
theorem lower_passesNullOn_length :
    let nick : Property := ⟨"Nick", "nick", .orNull .string, none⟩
    let model : EntityModel := ⟨[⟨"Customer", "customers", [nick]⟩]⟩
    let source := Dialect.ansi.mappings
    let select : Select := ⟨source, [⟨"c", "customers", "Customer", ⟨0⟩⟩], []⟩
    let property := Query.access (some (.shaper ⟨"Customer", ⟨0⟩⟩))
      ⟨.object, "Nick", .orNull .string⟩
    let length :=
      Query.access (some property) ⟨.orNull .string, "length", .int32⟩
    let query := Query.extension "Rows"
      [.stringConcat length (.constant (.string " letters") .string)]
    let text := Dialect.ansi.mapping? .string
    let integer := Dialect.ansi.mapping? .int32
    let column :=
      Sql.Node.leaf ⟨.orNull .string, text, false⟩ (.column ⟨"c", "nick"⟩)
    let node := Sql.Node.combine ⟨.orNull .string, text, false⟩ .concat
      (.apply ⟨.orNull .string, text, false⟩ .cast
        (.call ⟨.orNull .int32, integer, false⟩ "LENGTH" [column]))
      (.leaf ⟨.string, text, false⟩ (.constant (.string " letters")))
    query.Everywhere Query.KeepsNull ∧
      ((withBuiltInRules model source .standard).lower select query false).1 =
        .ok (.extension "Rows" [.sql node]) ∧
      node.Everywhere PassesNullOn := by
  intro nick model source select property length query text integer column node
  have lengthKeeps : length.Everywhere Query.KeepsNull := by
    simp [length, property, Query.everywhere_access, Query.everywhere_shaper,
      Query.KeepsNull, Member.isNullableValue]
  have concatenationKeeps :
      (Query.stringConcat length
        (.constant (.string " letters") .string)).Everywhere Query.KeepsNull :=
    (Query.everywhere_binary _ _ _ _ _).2
      ⟨trivial, lengthKeeps, (Query.everywhere_constant _ _).2 trivial⟩
  have keepsNull : query.Everywhere Query.KeepsNull :=
    (Tree.everywhere_iff query).2 ⟨trivial, by simpa [query, Query.children]⟩
  have lowered :
      ((withBuiltInRules model source .standard).lower select query false).1 =
        .ok (.extension "Rows" [.sql node]) := by
    with_unfolding_all rfl
  refine ⟨keepsNull, lowered, ?_⟩
  exact lower_passesNullOn model source .standard select query false _ node
    keepsNull lowered (.ofChild (.head _) .self)

end Lowerer
end QueryLowering
