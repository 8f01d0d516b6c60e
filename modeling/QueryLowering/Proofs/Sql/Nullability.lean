import QueryLowering.Proofs.Sql.Guarded
import QueryLowering.Proofs.Sql.Kept

/-!
# Nullability of expressions

A cast, a concatenation or a function of null is null. Such a node is declared
rightly only if it is declared nullable as soon as an operand is.

This can be read off an expression without its mappings, so that inference,
which writes mappings and nothing else, has no part in it.
-/

namespace QueryLowering
namespace Sql
namespace Node

/-- A cast, a concatenation or a function call is nullable if an operand is. -/
def PassesNullOn : Node → Prop
  | .apply header .cast operand =>
      operand.valueType.nullable = true → header.valueType.nullable = true
  | .combine header .concat left right =>
      left.valueType.nullable = true ∨ right.valueType.nullable = true →
        header.valueType.nullable = true
  | .call header _ arguments =>
      (∃ argument, argument ∈ arguments ∧ argument.valueType.nullable = true) →
        header.valueType.nullable = true
  | .leaf _ _ | .apply _ _ _ | .combine _ _ _ _ => True

@[simp] theorem valueType_withoutMappings (node : Node) :
    node.withoutMappings.valueType = node.valueType := by
  cases node <;> rfl

/-- The mappings of an operation do not matter to whether it passes null on, and
neither do those below it. -/
theorem passesNullOn_withoutMappings (node : Node) :
    node.withoutMappings.PassesNullOn ↔ node.PassesNullOn := by
  cases node with
  | leaf header atom => exact Iff.rfl
  | apply header op operand =>
      cases op <;> simp [withoutMappings, PassesNullOn, Header.withoutMapping]
  | combine header op left right =>
      cases op <;> simp [withoutMappings, PassesNullOn, Header.withoutMapping]
  | call header name arguments =>
      simp [withoutMappings, PassesNullOn, Header.withoutMapping,
        allWithoutMappings_eq_map]

/-- Without its mappings, an expression passes null on exactly where it does
with them. -/
theorem everywhere_passesNullOn_withoutMappings (node : Node) :
    node.withoutMappings.Everywhere PassesNullOn ↔
      node.Everywhere PassesNullOn := by
  induction node using induct with
  | leaf header atom => simp [withoutMappings, PassesNullOn]
  | apply header op operand inductionHypothesis =>
      rw [everywhere_apply, ← passesNullOn_withoutMappings,
        ← inductionHypothesis]
      exact everywhere_apply _ _ _
  | combine header op left right leftHypothesis rightHypothesis =>
      rw [everywhere_combine, ← passesNullOn_withoutMappings, ← leftHypothesis,
        ← rightHypothesis]
      exact everywhere_combine _ _ _ _
  | call header name arguments inductionHypothesis =>
      have sameBelow :
          (∀ argument, argument ∈ allWithoutMappings arguments →
            argument.Everywhere PassesNullOn) ↔
          ∀ argument, argument ∈ arguments →
            argument.Everywhere PassesNullOn := by
        rw [allWithoutMappings_eq_map, List.forall_mem_map]
        exact forall₂_congr inductionHypothesis
      rw [everywhere_call, ← passesNullOn_withoutMappings, ← sameBelow]
      exact everywhere_call _ _ _

/-- Inference makes no difference to where null is passed on. -/
@[simp] theorem everywhere_passesNullOn_infer
    (source : MappingSource)
    (node : Node) :
    (node.infer source).Everywhere PassesNullOn ↔
      node.Everywhere PassesNullOn := by
  rw [← everywhere_passesNullOn_withoutMappings, withoutMappings_infer,
    everywhere_passesNullOn_withoutMappings]

/-- Neither does another mapping for the root. -/
@[simp] theorem everywhere_passesNullOn_withMapping
    (node : Node)
    (mapping : TypeMapping) :
    (node.withMapping mapping).Everywhere PassesNullOn ↔
      node.Everywhere PassesNullOn := by
  rw [← everywhere_passesNullOn_withoutMappings, withoutMappings_withMapping,
    everywhere_passesNullOn_withoutMappings]

/-- A cast takes over the nullability of its operand. -/
@[simp] theorem everywhere_passesNullOn_cast
    (operand : Node)
    (target : ValueType) :
    (operand.cast target).Everywhere PassesNullOn ↔
      operand.Everywhere PassesNullOn := by
  rw [cast, everywhere_apply]
  refine and_iff_right ?_
  intro nullable
  simp [nullable]

/-- An operator that does not join texts has no duty to pass null on. -/
theorem everywhere_passesNullOn_binary_iff
    {op : BinaryOp}
    (noConcatenation : op ≠ .concat)
    (left right : Node)
    (valueType : ValueType) :
    (binary op left right valueType).Everywhere PassesNullOn ↔
      left.Everywhere PassesNullOn ∧ right.Everywhere PassesNullOn := by
  rw [binary, everywhere_combine]
  refine and_iff_right ?_
  cases op with
  | concat => exact absurd rfl noConcatenation
  | _ => trivial

/-- The test for truth passes on what it tests. -/
theorem everywhere_passesNullOn_toCondition
    {canonical : TypeMapping}
    {node : Node}
    (everywhere : node.Everywhere PassesNullOn) :
    (node.toCondition canonical).Everywhere PassesNullOn := by
  rcases toCondition_cases canonical node with unchanged | ⟨mapping, tested⟩
  · rwa [unchanged]
  · rw [tested, everywhere_passesNullOn_withMapping,
      everywhere_passesNullOn_binary_iff (by decide)]
    exact ⟨everywhere, (everywhere_leaf _ _).2 trivial⟩

end Node
end Sql
end QueryLowering
