import QueryLowering.Proofs.Sql.Guarded

/-!
# Expressions that are finished when they are built

A second run of inference can find more to do than the first, so it matters
where an expression was finished. Under a source that maps every kind but the
erased one, the expressions that lowering builds are ready: inference has
nothing left to do, or they are leaves that still lack their mapping. What is
built over ready operands is finished by one run, and ready again.

An operand that stays without a mapping is erased. A mapping that it could take
over later is erased too, and the source has none of these, so the operand
beside it had the mapping before the run, when it would have been taken over
already.
-/

namespace QueryLowering
namespace Sql
namespace Node

/-- Inference has nothing left to do, or the node is a leaf that lacks its
mapping. -/
def IsReady (source : MappingSource) (node : Node) : Prop :=
  node.infer source = node ∨
    ∃ header atom, node = .leaf header atom ∧
      header.mapping = none ∧ header.isCondition = false

/-- The node has a mapping, or is of the erased type, for which there is
none. -/
def IsMappedOrErased (node : Node) : Prop :=
  node.mapping.isSome = true ∨ node.valueType.kind = .object

/-- A node is settled if it is so without a mapping. -/
theorem isSettled_of_unmapped
    {node : Node}
    (settled : node.mapping = none → node.IsSettled) :
    node.IsSettled := by
  cases known : node.mapping with
  | some mapping => exact isSettled_of_mapped (by simp [known])
  | none => exact settled known

section

variable {source : MappingSource}

theorem isReady_of_mapped {node : Node} (mapped : node.mapping.isSome = true) :
    node.IsReady source :=
  .inl (infer_of_mapped source mapped)

/-- A leaf that is no condition is ready, with a mapping or without. -/
theorem isReady_leaf
    {header : Header}
    (atom : Atom)
    (value : header.isCondition = false) :
    (Node.leaf header atom).IsReady source := by
  cases known : header.mapping with
  | some mapping => exact isReady_of_mapped (by simp [Node.mapping, known])
  | none => exact .inr ⟨header, atom, rfl, known, value⟩

/-- What a run leaves settled, it has finished. -/
theorem isReady_infer_of_isSettled
    {node : Node}
    (settled : (node.infer source).IsSettled) :
    (node.infer source).IsReady source :=
  .inl (infer_eq_self_of_isSettled source (node.infer source)
    (everywhereOpen_keepsMapping_infer source node) settled)

/-- A run settles what is ready. -/
theorem isSettled_infer {node : Node} (ready : node.IsReady source) :
    (node.infer source).IsSettled := by
  rcases ready with finished | ⟨header, atom, rfl, _, _⟩
  · rw [finished]
    exact isSettled_of_infer_eq_self source node finished
  · rw [infer_leaf]
    exact isSettled_of_unmapped (isSettled_leaf_of_unmapped atom)

theorem isReady_infer {node : Node} (ready : node.IsReady source) :
    (node.infer source).IsReady source :=
  isReady_infer_of_isSettled (isSettled_infer ready)

theorem isReady_infer_apply
    {header : Header}
    {op : UnaryOp}
    {operand : Node}
    (unmapped : header.mapping = none)
    (ready : operand.IsReady source) :
    ((Node.apply header op operand).infer source).IsReady source := by
  refine isReady_infer_of_isSettled ?_
  rw [infer_apply source unmapped]
  exact isSettled_of_unmapped fun unmappedAfter =>
    (isSettled_apply_iff unmappedAfter).2 (isSettled_infer ready)

theorem isReady_infer_call
    {header : Header}
    {name : String}
    {arguments : List Node}
    (unmapped : header.mapping = none)
    (settled : ∀ argument, argument ∈ arguments →
      (argument.infer source).IsSettled) :
    ((Node.call header name arguments).infer source).IsReady source := by
  refine isReady_infer_of_isSettled ?_
  rw [infer_call source unmapped]
  refine isSettled_of_unmapped fun unmappedAfter => ?_
  rw [isSettled_call_iff unmappedAfter]
  simpa using settled

/-- The declared nullability has no part in what the operands hand on. -/
@[simp] theorem inherited_toNonNullable (node : Node) :
    node.toNonNullable.inherited source = node.inherited source := by
  cases node with
  | leaf header atom => rfl
  | apply header op operand => cases op <;> rfl
  | combine header op left right => cases op <;> rfl
  | call header name arguments => rfl

/-- Only the header of a node is inferred anew when its declared nullability is
off. -/
theorem infer_toNonNullable {node : Node} (unmapped : node.mapping = none) :
    node.toNonNullable.infer source =
      (node.infer source).withHeader
        (node.toNonNullable.header.resolve source (node.inherited source)) := by
  have unmappedAfter : node.toNonNullable.mapping = none := by
    simpa [toNonNullable, Node.mapping] using unmapped
  rw [← inherited_toNonNullable, ← header_infer]
  cases node with
  | leaf header atom => simp [toNonNullable, withHeader]
  | apply header op operand =>
      simp only [toNonNullable, withHeader] at unmappedAfter ⊢
      rw [infer_apply source unmapped, infer_apply source unmappedAfter]
      rfl
  | combine header op left right =>
      simp only [toNonNullable, withHeader] at unmappedAfter ⊢
      rw [infer_combine source unmapped, infer_combine source unmappedAfter]
      rfl
  | call header name arguments =>
      simp only [toNonNullable, withHeader] at unmappedAfter ⊢
      rw [infer_call source unmapped, infer_call source unmappedAfter]
      rfl

/-- What is made a condition is unchanged or has its mapping. -/
theorem isReady_toCondition
    {canonical : TypeMapping}
    {node : Node}
    (ready : node.IsReady source) :
    (node.toCondition canonical).IsReady source := by
  rcases toCondition_cases canonical node with unchanged | ⟨mapping, tested⟩
  · rw [unchanged]
    exact ready
  · rw [tested]
    exact isReady_of_mapped (by simp)

variable (covers : source.Covers)

include covers

/-- Inference leaves nothing but erased values without a mapping. -/
theorem infer_isMappedOrErased (node : Node) :
    (node.infer source).IsMappedOrErased := by
  cases known : (node.infer source).mapping with
  | some mapping => exact .inl (by simp [known])
  | none => exact .inr (erased_of_infer_unmapped covers known).1

/-- A ready node is finished when it has a mapping, or is erased and will get
none. -/
theorem infer_eq_self_iff_of_isReady
    {node : Node}
    (ready : node.IsReady source) :
    node.infer source = node ↔ node.IsMappedOrErased := by
  constructor
  · intro finished
    rw [← finished]
    exact infer_isMappedOrErased covers node
  · rintro (mapped | erased)
    · exact infer_of_mapped source mapped
    · rcases ready with finished | ⟨header, atom, rfl, unmapped, value⟩
      · exact finished
      · rw [infer_leaf, Header.resolve_eq_self_of_unmapped source]
        exact (Header.mapping_resolve_eq_none_iff source _ _).2
          ⟨unmapped, value, rfl, covers.find_erased erased⟩

theorem isReady_toNonNullable {node : Node} (ready : node.IsReady source) :
    node.toNonNullable.IsReady source := by
  rcases ready with finished | ⟨header, atom, rfl, _, value⟩
  · cases known : node.mapping with
    | some mapping =>
        have mapped : node.toNonNullable.mapping = some mapping := by
          simpa [toNonNullable, Node.mapping] using known
        exact isReady_of_mapped (by simp [mapped])
    | none =>
        left
        have resolved := header_infer source node
        rw [finished] at resolved
        have unresolved :
            (node.header.resolve source (node.inherited source)).mapping =
              none := by
          rw [← resolved]
          exact known
        obtain ⟨_, value, nothing, notFound⟩ :=
          (Header.mapping_resolve_eq_none_iff source _ _).1 unresolved
        have erased : node.valueType.kind = .object := covers.total _ notFound
        rw [infer_toNonNullable known, finished, nothing,
          Header.resolve_eq_self_of_unmapped source]
        · simp [toNonNullable]
        · refine (Header.mapping_resolve_eq_none_iff source _ _).2 ?_
          simpa [toNonNullable] using
            ⟨known, value,
              covers.find_erased (node.valueType.nonNullable_kind.trans erased)⟩
  · exact isReady_leaf atom value

/-- Beside a ready sibling, an operand that stays without a mapping has nothing
to take over after the run. -/
theorem not_canAdopt_of_isReady
    {node sibling : Node}
    (siblingReady : sibling.IsReady source) :
    ¬ (node.inferBeside source sibling).CanAdopt
      (sibling.inferBeside source node) := by
  rintro ⟨unmapped, adopts⟩
  obtain ⟨mapping, adopted⟩ := Option.isSome_iff_exists.1 adopts
  obtain ⟨known, isNull | ofKind⟩ :=
    (adopted?_eq_some_iff _ _ mapping).1 adopted
  · rw [mapping_sibling_of_unmapped_null source (by simpa using isNull)
      unmapped] at known
    cases known
  · have alone : (node.infer source).mapping = none := by
      rw [← inferBeside_eq_infer_of_unmapped source unmapped]
      exact unmapped
    have erased : mapping.kind = .object := by
      rw [ofKind, valueType_inferBeside, ← valueType_infer source node]
      exact (erased_of_infer_unmapped covers alone).1
    cases siblingKnown : sibling.mapping with
    | some own =>
        -- the sibling had the mapping before the run
        rw [inferBeside_of_mapped source node (by simp [siblingKnown])] at known
        have adoptedBefore : node.adopted? sibling = some mapping :=
          (adopted?_eq_some_iff node sibling mapping).2
            ⟨known, .inr (by simpa using ofKind)⟩
        rw [adopted?_eq_none_of_unmapped source unmapped] at adoptedBefore
        cases adoptedBefore
    | none =>
        rcases inferBeside_cases source sibling node with
          siblingAlone | ⟨_, _, _, _, _, nodeKnown⟩
        · rw [siblingAlone] at known
          rcases siblingReady with
            finished | ⟨header, atom, rfl, siblingUnmapped, value⟩
          · rw [finished, siblingKnown] at known
            cases known
          · -- the sibling is a leaf that found the mapping in the source
            rw [infer_leaf] at known
            have found : source.find header.valueType = some mapping := by
              rw [← known]
              exact (Header.mapping_resolve_of_value source none siblingUnmapped
                value).symm
            exact (covers.ofKind _ mapping found).2 erased
        · rw [alone] at nodeKnown
          cases nodeKnown

theorem isSettled_infer_combine
    {header : Header}
    {op : BinaryOp}
    {left right : Node}
    (unmapped : header.mapping = none)
    (leftReady : left.IsReady source)
    (rightReady : right.IsReady source) :
    ((Node.combine header op left right).infer source).IsSettled := by
  rw [infer_combine source unmapped]
  refine isSettled_of_unmapped fun unmappedAfter => ?_
  rw [isSettled_combine_iff unmappedAfter]
  exact ⟨not_canAdopt_of_isReady covers rightReady,
    not_canAdopt_of_isReady covers leftReady,
    isSettled_inferBeside source right (isSettled_infer leftReady),
    isSettled_inferBeside source left (isSettled_infer rightReady)⟩

theorem isReady_infer_combine
    {header : Header}
    {op : BinaryOp}
    {left right : Node}
    (unmapped : header.mapping = none)
    (leftReady : left.IsReady source)
    (rightReady : right.IsReady source) :
    ((Node.combine header op left right).infer source).IsReady source :=
  isReady_infer_of_isSettled
    (isSettled_infer_combine covers unmapped leftReady rightReady)

end

end Node
end Sql
end QueryLowering
