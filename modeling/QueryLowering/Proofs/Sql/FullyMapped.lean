import QueryLowering.Proofs.Sql.Settling

/-!
# What inference reaches

Inference walks over the nodes without a mapping and stops at mapped ones. A
source that knows every type leaves none of the nodes that it reaches without a
mapping. But an operand that takes over the mapping of its sibling is mapped
before inference comes to it, and so what stands below the operand is not
reached.

So, if below mapped nodes everything is mapped from the start, the result is
mapped throughout exactly when no operand with something unmapped below it takes
over a mapping.
-/

namespace QueryLowering
namespace Sql
namespace Node

theorem areFullyMapped_iff (nodes : List Node) :
    areFullyMapped nodes = true ↔
      ∀ node, node ∈ nodes → node.isFullyMapped = true := by
  induction nodes with
  | nil => simp [areFullyMapped]
  | cons node rest inductionHypothesis =>
      simp [areFullyMapped, inductionHypothesis]

/-- A node is fully mapped if it has a mapping and its operands are fully
mapped. -/
theorem isFullyMapped_iff (node : Node) :
    node.isFullyMapped = true ↔
      node.mapping.isSome = true ∧
        ∀ child, child ∈ node.children → child.isFullyMapped = true := by
  cases node with
  | leaf header atom => simp [isFullyMapped, children, Node.mapping]
  | apply header op operand => simp [isFullyMapped, children, Node.mapping]
  | combine header op left right => simp [isFullyMapped, children, Node.mapping]
  | call header name arguments =>
      simp [isFullyMapped, children, Node.mapping, areFullyMapped_iff]

/-- What stands inside a fully mapped node is fully mapped. -/
theorem isFullyMapped_of_partOf
    {part whole : Node}
    (partOfWhole : Tree.PartOf children part whole)
    (full : whole.isFullyMapped = true) :
    part.isFullyMapped = true := by
  induction partOfWhole with
  | self => exact full
  | @ofChild child whole member _ inductionHypothesis =>
      exact inductionHypothesis
        (((isFullyMapped_iff whole).1 full).2 child member)

@[simp] theorem children_withMapping (node : Node) (mapping : TypeMapping) :
    (node.withMapping mapping).children = node.children := by
  cases node <;> rfl

/-- The operand takes over the mapping of its sibling, and something below it
has none. -/
def IsSkippedBeside (node sibling : Node) : Prop :=
  node.CanAdopt sibling ∧ ∃ child, child ∈ node.children ∧
    child.isFullyMapped = false

/-- One of the operands of a binary node is skipped beside the other. -/
def Skips : Node → Prop
  | .combine _ _ left right =>
      left.IsSkippedBeside right ∨ right.IsSkippedBeside left
  | .leaf _ _ | .apply _ _ _ | .call _ _ _ => False

theorem skips_combine_iff
    (header : Header)
    (op : BinaryOp)
    (left right : Node) :
    (Node.combine header op left right).Skips ↔
      left.IsSkippedBeside right ∨ right.IsSkippedBeside left := Iff.rfl

/-- Mapped operands take over nothing. -/
theorem not_skips_of_mapped_children
    {node : Node}
    (mapped : ∀ child, child ∈ node.children → child.mapping.isSome = true) :
    ¬ node.Skips := by
  have notSkipped : ∀ child sibling : Node, child.mapping.isSome = true →
      ¬ child.IsSkippedBeside sibling := by
    rintro child sibling childMapped ⟨⟨unmapped, _⟩, _⟩
    simp [unmapped] at childMapped
  cases node with
  | combine header op left right =>
      rintro (skipped | skipped)
      · exact notSkipped left right (mapped left (by simp [children])) skipped
      · exact notSkipped right left (mapped right (by simp [children])) skipped
  | _ => exact id

/-- Where everything below a node is mapped, nothing is skipped. -/
theorem everywhere_not_skips
    {node : Node}
    (full : ∀ child, child ∈ node.children → child.isFullyMapped = true) :
    node.Everywhere fun part => ¬ part.Skips := by
  have notSkips : ∀ part : Node,
      (∀ child, child ∈ part.children → child.isFullyMapped = true) →
      ¬ part.Skips := by
    intro part partFull
    exact not_skips_of_mapped_children fun child member =>
      ((isFullyMapped_iff child).1 (partFull child member)).1
  refine (Tree.everywhere_iff node).2 ⟨notSkips node full, ?_⟩
  intro child member part partOfChild
  have partFull := isFullyMapped_of_partOf partOfChild (full child member)
  exact notSkips part ((isFullyMapped_iff part).1 partFull).2

section

variable {source : MappingSource}

/-- Inference maps every node of a type that the source knows. -/
theorem mapping_infer_isSome
    {node : Node}
    (known : (source.find node.valueType).isSome = true) :
    (node.infer source).mapping.isSome = true := by
  cases mapped : (node.infer source).mapping with
  | some mapping => rfl
  | none =>
      rw [Node.mapping, header_infer] at mapped
      obtain ⟨_, _, _, notFound⟩ :=
        (Header.mapping_resolve_eq_none_iff source _ _).1 mapped
      rw [Node.valueType, notFound] at known
      cases known

/-- An operand that can take over the mapping of its sibling does so, and any
other operand of a known type is inferred on its own. -/
theorem inferBeside_eq
    {node : Node}
    (sibling : Node)
    (known : (source.find node.valueType).isSome = true) :
    (node.CanAdopt sibling ∧
      ∃ mapping, node.inferBeside source sibling = node.withMapping mapping) ∨
    (¬ node.CanAdopt sibling ∧
      node.inferBeside source sibling = node.infer source) := by
  by_cases adopts : node.CanAdopt sibling
  · obtain ⟨unmapped, taken⟩ := adopts
    obtain ⟨mapping, adopted⟩ := Option.isSome_iff_exists.1 taken
    refine .inl ⟨⟨unmapped, taken⟩, mapping, ?_⟩
    rw [inferBeside, inferAlone_of_adopts source unmapped adopted]
    exact fillNull_of_mapped _ (by simp)
  · refine .inr ⟨adopts, ?_⟩
    cases unmapped : node.mapping with
    | some mapping =>
        have mapped : node.mapping.isSome = true := by simp [unmapped]
        rw [inferBeside_of_mapped source sibling mapped,
          infer_of_mapped source mapped]
    | none =>
        exact inferBeside_of_keeps source
          (adopted?_eq_none_of_not_canAdopt unmapped adopts)
          (.inl (mapping_infer_isSome known))

/-- An operand is mapped throughout exactly when it is not skipped, and nothing
below it is. -/
theorem isFullyMapped_inferBeside_iff
    {node : Node}
    (sibling : Node)
    (known : (source.find node.valueType).isSome = true)
    (alone : (node.infer source).isFullyMapped = true ↔
      node.Everywhere fun part => ¬ part.Skips) :
    (node.inferBeside source sibling).isFullyMapped = true ↔
      ¬ node.IsSkippedBeside sibling ∧ node.Everywhere
      fun part => ¬ part.Skips := by
  rcases inferBeside_eq sibling known with
    ⟨adopts, mapping, adopted⟩ | ⟨keeps, inferred⟩
  · rw [adopted, isFullyMapped_iff, mapping_withMapping, children_withMapping]
    constructor
    · rintro ⟨_, full⟩
      refine ⟨?_, everywhere_not_skips full⟩
      rintro ⟨_, child, member, notFull⟩
      rw [full child member] at notFull
      cases notFull
    · rintro ⟨notSkipped, _⟩
      refine ⟨rfl, fun child member => ?_⟩
      cases full : child.isFullyMapped with
      | true => rfl
      | false => exact absurd ⟨adopts, child, member, full⟩ notSkipped
  · rw [inferred, alone]
    exact (and_iff_right fun skipped => keeps skipped.1).symm

end

/-- Under a source that knows all types that occur, and where below mapped nodes
everything is mapped, inference maps everything exactly when it skips
nothing. -/
theorem isFullyMapped_infer_iff
    (source : MappingSource)
    (node : Node)
    (known : node.Everywhere
      fun part => (source.find part.valueType).isSome = true)
    (closed : node.Everywhere fun part =>
      part.mapping.isSome = true → part.isFullyMapped = true) :
    (node.infer source).isFullyMapped = true ↔
      node.Everywhere fun part => ¬ part.Skips := by
  -- the root itself is always mapped, so only its operands are left to look at
  have rootMapped : ∀ root : Node,
      (root.Everywhere fun part => (source.find part.valueType).isSome = true) →
      ((root.infer source).isFullyMapped = true ↔
        ∀ child, child ∈ (root.infer source).children →
          child.isFullyMapped = true) := by
    intro root known
    rw [isFullyMapped_iff]
    exact and_iff_right (mapping_infer_isSome known.root)
  induction node using inductUnmapped with
  | mapped node mapped =>
      have full : node.isFullyMapped = true := closed.root mapped
      rw [infer_of_mapped source mapped]
      exact iff_of_true full
        (everywhere_not_skips ((isFullyMapped_iff node).1 full).2)
  | leaf header atom unmapped =>
      rw [rootMapped _ known, infer_leaf]
      simp [children, Skips]
  | apply header op operand unmapped inductionHypothesis =>
      have operandIff := inductionHypothesis (known.child (by simp [children]))
        (closed.child (by simp [children]))
      rw [rootMapped _ known, infer_apply source unmapped]
      simp [children, Skips, operandIff]
  | combine header op left right unmapped leftHypothesis rightHypothesis =>
      have leftKnown := known.child (show left ∈ [left, right] by simp)
      have rightKnown := known.child (show right ∈ [left, right] by simp)
      have leftIff := isFullyMapped_inferBeside_iff right leftKnown.root
        (leftHypothesis leftKnown (closed.child (by simp [children])))
      have rightIff := isFullyMapped_inferBeside_iff left rightKnown.root
        (rightHypothesis rightKnown (closed.child (by simp [children])))
      rw [rootMapped _ known, infer_combine source unmapped, everywhere_combine,
        skips_combine_iff, not_or, and_and_and_comm, ← leftIff, ← rightIff]
      simp [children]
  | call header name arguments unmapped inductionHypothesis =>
      have argumentsIff : ∀ argument, argument ∈ arguments →
          ((argument.infer source).isFullyMapped = true ↔
            argument.Everywhere fun part => ¬ part.Skips) :=
        fun argument member =>
          inductionHypothesis argument member (known.child member)
            (closed.child member)
      rw [rootMapped _ known, infer_call source unmapped]
      simp only [children, List.forall_mem_map, everywhere_call, Skips,
        not_false_eq_true, true_and]
      exact forall₂_congr argumentsIff

/-- Nothing is skipped in the sum of two terms without a mapping. -/
theorem isFullyMapped_infer_sum :
    let source := Dialect.ansi.mappings
    let delta := (parameter "delta" .int32).negate .int32
    let node := binary .add (parameter "base" .int32) delta .int32
    (node.Everywhere fun part => (source.find part.valueType).isSome = true) ∧
      (node.Everywhere
        fun part => part.mapping.isSome = true → part.isFullyMapped = true) ∧
      (node.infer source).isFullyMapped = true := by
  intro source delta node
  have known : node.Everywhere
      fun part => (source.find part.valueType).isSome = true := by
    simp only [node, delta, binary, negate, parameter, everywhere_combine,
      everywhere_apply, everywhere_leaf]
    decide
  have closed : node.Everywhere fun part =>
      part.mapping.isSome = true → part.isFullyMapped = true := by
    simp [node, delta, binary, negate, parameter, Node.mapping]
  refine ⟨known, closed,
    (isFullyMapped_infer_iff source node known closed).2 ?_⟩
  simp [node, delta, binary, negate, parameter, Skips, IsSkippedBeside,
    CanAdopt, adopted?, Node.mapping]

/-- Inference does not reach everything. The negation takes over the mapping of
the column that it is added to, and the parameter below it gets none. -/
theorem infer_not_isFullyMapped :
    let source := Dialect.ansi.mappings
    let quantity :=
      column ⟨"o", "qty"⟩ .int32 (some (.ofStoreType "smallint" .int32))
    let delta := (parameter "delta" .int32).negate .int32
    let node := binary .add quantity delta .int32
    (node.Everywhere fun part => (source.find part.valueType).isSome = true) ∧
      (node.Everywhere
        fun part => part.mapping.isSome = true → part.isFullyMapped = true) ∧
      (node.infer source).isFullyMapped = false := by
  intro source quantity delta node
  refine ⟨?_, ?_, by decide⟩
  · simp only [node, quantity, delta, binary, negate, parameter, column,
      everywhere_combine, everywhere_apply, everywhere_leaf]
    decide
  · simp [node, quantity, delta, binary, negate, parameter, column,
      Node.mapping, isFullyMapped]

end Node
end Sql
end QueryLowering
