import QueryLowering.Proofs.Lowering.Lowers
import QueryLowering.Proofs.Lowering.Step

/-!
# Where unsupported parts stand

A part without an SQL equivalent is not passed up as an error, so every node has
to see to it that it builds nothing over such a part. Conversions and
constructed objects are built over complete values alone. An extension node
keeps its children as they are, so that it is the only one with unsupported
parts below it.
-/

namespace QueryLowering
namespace Lowered

@[simp] theorem isComplete_projection (fields : List (String × Lowered)) :
    (Lowered.projection fields).isComplete = fields.all
      fun field => field.2.isComplete := by
  rw [isComplete]
  induction fields with
  | nil => rfl
  | cons field rest inductionHypothesis =>
      simp [areFieldsComplete, inductionHypothesis]

@[simp] theorem isComplete_extension (name : String) (results : List Lowered) :
    (Lowered.extension name results).isComplete = results.all isComplete := by
  rw [isComplete]
  induction results with
  | nil => rfl
  | cons result rest inductionHypothesis =>
      simp [areComplete, inductionHypothesis]

/-- A result is complete when no part of it is unsupported. -/
theorem isComplete_iff_everywhere (result : Lowered) :
    result.isComplete = true ↔ result.Everywhere (· ≠ .unsupported) := by
  induction result using induct with
  | sql node => simp [isComplete]
  | shaper entity => simp [isComplete]
  | convert operand target inductionHypothesis =>
      simp [isComplete, inductionHypothesis]
  | projection fields inductionHypothesis =>
      rw [everywhere_projection, isComplete_projection, List.all_eq_true]
      simp only [ne_eq, reduceCtorEq, not_false_eq_true, true_and]
      exact forall_congr' fun field => forall_congr' fun member =>
        inductionHypothesis field member
  | extension name children inductionHypothesis =>
      rw [everywhere_extension, isComplete_extension, List.all_eq_true]
      simp only [ne_eq, reduceCtorEq, not_false_eq_true, true_and]
      exact forall_congr' fun child => forall_congr' fun member =>
        inductionHypothesis child member
  | unsupported => simp [isComplete]

/-- A result is incomplete when it has an unsupported part. -/
theorem isComplete_eq_false_iff (result : Lowered) :
    result.isComplete = false ↔ Lowered.unsupported.PartOf result := by
  rw [← Bool.not_eq_true, isComplete_iff_everywhere]
  constructor
  · intro incomplete
    by_contra absent
    refine incomplete ?_
    rintro part partOfResult rfl
    exact absent partOfResult
  · intro unsupportedPart complete
    exact complete _ unsupportedPart rfl

/-- Nothing is built over an unsupported part: a result is complete, or it is
unsupported itself, or an extension node. -/
def IsContained (result : Lowered) : Prop :=
  result.isComplete = true ∨ result = .unsupported ∨
    ∃ name children, result = .extension name children

/-- All parts of a complete result are complete. -/
theorem everywhere_isContained_of_isComplete
    {result : Lowered}
    (complete : result.isComplete = true) :
    result.Everywhere IsContained := by
  intro part partOfResult
  left
  rw [isComplete_iff_everywhere] at complete ⊢
  exact complete.part partOfResult

end Lowered

namespace Lowerer

open Lowered (IsContained)

variable {lowerer : Lowerer} {select : Select}

@[simp] theorem isComplete_finish (requireCondition : Bool) (result : Lowered) :
    (lowerer.finish requireCondition result).isComplete =
      result.isComplete := by
  cases result with
  | sql node => cases requireCondition <;> rfl
  | _ => rfl

/-- Whatever the rules make of a use is contained. -/
theorem everywhere_isContained_applyRules (rules : List (Rule α)) (use : α) :
    (lowerer.applyRules rules use).Everywhere IsContained := by
  rcases lowerer.applyRules_cases rules use with nothing | ⟨node, _, given⟩
  · simp [nothing, IsContained]
  · simp [given, IsContained, Lowered.isComplete]

theorem everywhere_isContained_bindProperty
    {entity : EntityRef}
    {name : String}
    {result : Lowered}
    (bound : (lowerer.bindProperty select entity name).result = .ok result) :
    result.Everywhere IsContained := by
  obtain ⟨_, _, _, _, _, _, rfl⟩ :=
    (lowerer.result_bindProperty_eq_ok_iff select entity name result).1 bound
  simp [IsContained, Lowered.isComplete]

/-- In all that a query lowers to, unsupported parts stand below extension nodes
alone. -/
theorem Lowers.everywhere_isContained
    {query : Query}
    {result : Lowered}
    (lowered : lowerer.Lowers select query result) :
    result.Everywhere IsContained := by
  induction lowered with
  | constant | parameter | shaper | nullableValue =>
      exact Lowered.everywhere_isContained_of_isComplete rfl
  | staticMember | member | call => exact everywhere_isContained_applyRules _ _
  | boundMember _ bound | accessor _ _ bound =>
      exact everywhere_isContained_bindProperty bound
  | binary _ _ combined =>
      rcases Lowering.binary_cases combined with
        rfl | ⟨_, _, node, _, _, rfl, _⟩
      · simp [IsContained]
      · simp [IsContained, Lowered.isComplete]
  | @unary op _ valueType value =>
      rcases Lowering.unary_cases lowerer.mappings op valueType value with
        nothing | ⟨complete, _, kept⟩ | ⟨node, _, _, _, given⟩ |
          ⟨node, _, _, given⟩ |
        ⟨node, _, _, given⟩
      · simp [nothing, IsContained]
      · rw [kept]
        exact Lowered.everywhere_isContained_of_isComplete complete
      · simp [given, IsContained, Lowered.isComplete]
      · simp [given, IsContained, Lowered.isComplete]
      · simp [given, IsContained, Lowered.isComplete]
  | @construction _ members _ values _ _ _ _ complete =>
      refine Lowered.everywhere_isContained_of_isComplete ?_
      rw [Lowered.isComplete_projection, List.all_eq_true]
      intro field member
      obtain ⟨value, inValues, finished⟩ :=
        List.mem_map.1 (List.of_mem_zip member).2
      rw [← finished, isComplete_finish]
      exact complete value inValues
  | incompleteArgument | noConstruction => simp [IsContained]
  | @extension name children values sameLength _ inductionHypothesis =>
      rw [Lowered.everywhere_extension]
      refine ⟨.inr (.inr ⟨name, values, rfl⟩), ?_⟩
      intro value member
      obtain ⟨child, paired⟩ := exists_paired sameLength member
      exact inductionHypothesis (child, value) paired

theorem everywhere_isContained_finish
    {requireCondition : Bool}
    {result : Lowered}
    (contained : result.Everywhere IsContained) :
    (lowerer.finish requireCondition result).Everywhere IsContained := by
  cases result with
  | sql node =>
      cases requireCondition <;> simp [finish, IsContained, Lowered.isComplete]
  | _ => exact contained

/-- The values that arguments lower to each on its own are the finished values
of the attempts for them. -/
theorem exists_yield_of_lower
    {arguments : List Query}
    {values : List Lowered}
    (sameLength : arguments.length = values.length)
    (lowered : ∀ pair, pair ∈ arguments.zip values →
      (lowerer.lower select pair.1 false).1 = .ok pair.2) :
    ∃ raws, Attempt.Yield (lowerer.visitAll select arguments) raws ∧
      raws.map (lowerer.finish false) = values := by
  induction arguments generalizing values with
  | nil =>
      obtain rfl : values = [] := List.length_eq_zero_iff.1 sameLength.symm
      exact ⟨[], .nil, rfl⟩
  | cons argument rest inductionHypothesis =>
      cases values with
      | nil => simp at sameLength
      | cons value others =>
          simp only [List.zip_cons_cons, List.forall_mem_cons] at lowered
          obtain ⟨first, remaining⟩ := lowered
          obtain ⟨_, raw, given, rfl⟩ :=
            (lowerer.lower_eq_ok_iff select argument false value).1 first
          obtain ⟨raws, yielded, rfl⟩ :=
            inductionHypothesis (by simpa using sameLength) remaining
          exact ⟨raw :: raws, .cons given.result_visit yielded, rfl⟩

/-- Whatever the rules, mappings and model are, no conversion and no constructed
object in a result has an unsupported part, so that only extension nodes stand
above one. An object whose arguments all lower on their own is constructed from
just these results, in order, if there is a member for each, at least one, and
all are complete; else it is unsupported. Only a query that is too deep as a
whole is refused. -/
theorem lower_contains_unsupported
    (lowerer : Lowerer)
    (select : Select)
    (requireCondition : Bool) :
    (∀ query result part,
      (lowerer.lower select query requireCondition).1 = .ok result →
      part.PartOf result →
      ((∃ operand target, part = .convert operand target) ∨
        (∃ fields, part = .projection fields) →
        ¬ Lowered.unsupported.PartOf part) ∧
      (Lowered.unsupported.PartOf part →
        part = .unsupported ∨
          ∃ name children, part = .extension name children)) ∧
    (∀ typeName members arguments values,
      arguments.length = values.length →
      (∀ pair, pair ∈ arguments.zip values →
        (lowerer.lower select pair.1 false).1 = .ok pair.2) →
      (lowerer.lower select (.construction typeName members arguments)
          requireCondition).1 =
        if lowerer.settings.maxDepth.toNat <
            (Query.construction typeName members arguments).depth then
          .error (.tooDeep lowerer.settings.maxDepth)
        else .ok
          (if members ≠ [] ∧ arguments ≠ [] ∧
              members.length = arguments.length ∧
              ∀ value, value ∈ values → value.isComplete = true
            then .projection (members.zip values)
            else .unsupported)) := by
  constructor
  · intro query result part lowered partOfResult
    obtain ⟨_, raw, given, rfl⟩ :=
      (lowerer.lower_eq_ok_iff select query requireCondition result).1 lowered
    have contained : part.IsContained :=
      everywhere_isContained_finish given.everywhere_isContained part
        partOfResult
    have onlyAround : Lowered.unsupported.PartOf part →
        part = .unsupported ∨
          ∃ name children, part = .extension name children := by
      intro unsupportedPart
      rcases contained with complete | around
      · rw [← Lowered.isComplete_eq_false_iff, complete] at unsupportedPart
        cases unsupportedPart
      · exact around
    refine ⟨?_, onlyAround⟩
    rintro (⟨operand, target, rfl⟩ | ⟨fields, rfl⟩) unsupportedPart
    · simpa using onlyAround unsupportedPart
    · simpa using onlyAround unsupportedPart
  · intro typeName members arguments values sameLength lowered
    obtain ⟨raws, yielded, rfl⟩ := exists_yield_of_lower sameLength lowered
    have given := lowerer.result_lowerConstruction_of_yield members yielded
    have sameCondition :
        (members ≠ [] ∧
          members.length = (lowerer.visitAll select arguments).length ∧
          ∀ value, value ∈ raws → value.isComplete = true) ↔
        (members ≠ [] ∧ arguments ≠ [] ∧ members.length = arguments.length ∧
          ∀ value, value ∈ raws.map (lowerer.finish false) →
            value.isComplete = true) := by
      simp only [visitAll_eq_map, List.length_map, List.forall_mem_map,
        isComplete_finish]
      constructor
      · rintro ⟨nonempty, sameCount, complete⟩
        refine ⟨nonempty, ?_, sameCount, complete⟩
        rintro rfl
        exact nonempty (List.length_eq_zero_iff.1 sameCount)
      · rintro ⟨nonempty, _, sameCount, complete⟩
        exact ⟨nonempty, sameCount, complete⟩
    rw [lower_eq, visit, given]
    simp only [sameCondition]
    split
    · rfl
    · split <;> rfl

/-- An extension node keeps an unsupported child beside a constructed object,
which has no unsupported part and is the same on its own. -/
theorem lower_contains_unsupported_beside_row :
    let lowerer := bare .empty Dialect.ansi.mappings .standard
    let select := Select.empty Dialect.ansi.mappings
    let now : Query := .access none ⟨.object, "now", .object⟩
    let row : Query :=
      .construction "Row" ["Count"] [.constant (.integer 1) .int32]
    let one :=
      Lowered.sql (.leaf ⟨.int32, some (.ofStoreType "integer" .int32), false⟩
        (.constant (.integer 1)))
    (lowerer.lower select (.extension "Include" [row, now]) false).1 =
        .ok
          (.extension "Include" [.projection [("Count", one)], .unsupported]) ∧
      ¬ Lowered.unsupported.PartOf (.projection [("Count", one)]) ∧
      (lowerer.lower select row true).1 =
        .ok (.projection [("Count", one)]) := by
  intro lowerer select now row one
  have lowersToExtension :
      (lowerer.lower select (.extension "Include" [row, now]) false).1 =
        .ok (.extension "Include"
          [.projection [("Count", one)], .unsupported]) := by
        cbv
  have lowersToOne :
      (lowerer.lower select (.constant (.integer 1) .int32) false).1 =
          .ok one := by
        cbv
  refine ⟨lowersToExtension, ?_, ?_⟩
  · refine ((lower_contains_unsupported lowerer select false).1 _ _ _
      lowersToExtension ?_).1 (.inr ⟨_, rfl⟩)
    exact .ofChild (by simp [Lowered.children]) .self
  · rw [(lower_contains_unsupported lowerer select true).2 "Row" ["Count"] _
      [one] rfl (by simpa using lowersToOne)]
    cbv

end Lowerer
end QueryLowering
