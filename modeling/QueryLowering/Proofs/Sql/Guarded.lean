import QueryLowering.Lowering.Operators
import QueryLowering.Proofs.Sql.WellMapped

/-!
# Guarded truth values

Where SQL requires a condition, a bare truth value has to be compared with the
literal for truth. The operands of negations and junctions are made conditions
before the operator is built, and inference runs on the operator afterwards. The
operand of a negation gets no mapping then. An operand of a junction can get
one: the null constant of the erased type has no mapping when it is made a
condition, and takes over that of the other operand. In all other cases the
operands are guarded, and they stay so whatever is built over them.
-/

namespace QueryLowering
namespace Sql
namespace Node

/-- The node is mapped as a truth value. -/
def HasTruthMapping (node : Node) : Prop :=
  ∃ mapping, node.mapping = some mapping ∧ mapping.kind = .boolean

/-- The node is mapped as a truth value, but SQL does not accept it as a
condition. -/
def IsBareTruth (node : Node) : Prop :=
  node.HasTruthMapping ∧ node.isCondition = false

/-- The node is the null constant of the erased type. -/
def IsUntypedNull (node : Node) : Prop :=
  node.isNullConstant = true ∧ node.valueType.kind = .object

/-- The operand of a negation is no bare truth value, and one of a junction is
so exactly when it is the untyped null constant beside an operand that is mapped
as a truth value. -/
def GuardsTruth : Node → Prop
  | .apply _ op operand => op = .not → ¬ operand.IsBareTruth
  | .combine _ op left right => op.isLogical = true →
      (left.IsBareTruth ↔ left.IsUntypedNull ∧ right.HasTruthMapping) ∧
      (right.IsBareTruth ↔ right.IsUntypedNull ∧ left.HasTruthMapping)
  | .leaf _ _ | .call _ _ _ => True

/-- The operands are guarded, and inference will not change this: junctions have
their mapping, and the operand of a negation gets none. -/
def StaysGuarded (source : MappingSource) : Node → Prop
  | .apply header op operand =>
      (Node.apply header op operand).GuardsTruth ∧
        (op = .not → operand.KeepsMapping source)
  | .combine header op left right =>
      (Node.combine header op left right).GuardsTruth ∧
        (op.isLogical = true → header.mapping.isSome = true)
  | .leaf _ _ | .call _ _ _ => True

/-- The operands in the whole expression stay guarded, and the expression is not
the untyped null constant with a mapping. -/
structure IsGuarded (source : MappingSource) (node : Node) : Prop where
  everywhere : node.Everywhere (StaysGuarded source)
  untypedNull : node.IsUntypedNull →
    node.mapping = none ∧ node.isCondition = false

theorem guardsTruth_of_staysGuarded
    {source : MappingSource}
    {node : Node}
    (guarded : node.StaysGuarded source) :
    node.GuardsTruth := by
  cases node with
  | leaf header atom => trivial
  | apply header op operand => exact guarded.1
  | combine header op left right => exact guarded.1
  | call header name arguments => trivial

theorem hasTruthMapping_iff_of_mapping_eq
    {node other : Node}
    (same : node.mapping = other.mapping) :
    node.HasTruthMapping ↔ other.HasTruthMapping := by
  rw [HasTruthMapping, HasTruthMapping, same]

theorem not_hasTruthMapping_of_unmapped
    {node : Node}
    (unmapped : node.mapping = none) :
    ¬ node.HasTruthMapping := by
  rintro ⟨mapping, known, _⟩
  rw [unmapped] at known
  cases known

/-- What is made a condition is no bare truth value. -/
theorem not_isBareTruth_toCondition (canonical : TypeMapping) (node : Node) :
    ¬ (node.toCondition canonical).IsBareTruth := by
  unfold toCondition
  split
  · next condition =>
      rintro ⟨_, value⟩
      rw [condition] at value
      cases value
  · split
    · next mapping known =>
        split
        · rintro ⟨_, value⟩
          cases value
        · next notTruth =>
            rintro ⟨⟨other, otherKnown, isTruth⟩, _⟩
            rw [known] at otherKnown
            cases otherKnown
            exact notTruth isTruth
    · next unmapped => exact fun bare =>
        not_hasTruthMapping_of_unmapped unmapped bare.1

/-- What is made a condition is unchanged, or a test for truth. -/
theorem toCondition_cases (canonical : TypeMapping) (node : Node) :
    node.toCondition canonical = node ∨
      ∃ mapping, node.toCondition canonical =
        (binary .equal node (truth mapping) .boolean).withMapping
          canonical := by
  unfold toCondition
  split
  · exact .inl rfl
  · split
    · next mapping _ =>
        split
        · exact .inr ⟨mapping, rfl⟩
        · exact .inl rfl
    · exact .inl rfl

variable {source : MappingSource}

/-- An operator other than a negation has nothing to guard. -/
theorem everywhere_staysGuarded_apply
    {header : Header}
    {op : UnaryOp}
    {operand : Node}
    (notNegation : op ≠ .not)
    (everywhere : operand.Everywhere (StaysGuarded source)) :
    (Node.apply header op operand).Everywhere (StaysGuarded source) := by
  refine (everywhere_apply _ _ _).2 ⟨⟨?_, ?_⟩, everywhere⟩
  · exact fun negation => absurd negation notNegation
  · exact fun negation => absurd negation notNegation

/-- A binary operator other than a junction has nothing to guard. -/
theorem everywhere_staysGuarded_combine
    {header : Header}
    {op : BinaryOp}
    {left right : Node}
    (notLogical : op.isLogical = false)
    (leftEverywhere : left.Everywhere (StaysGuarded source))
    (rightEverywhere : right.Everywhere (StaysGuarded source)) :
    (Node.combine header op left right).Everywhere (StaysGuarded source) := by
  refine (everywhere_combine _ _ _ _).2
    ⟨⟨?_, ?_⟩, leftEverywhere, rightEverywhere⟩
  · exact fun logical => absurd logical (by simp [notLogical])
  · exact fun logical => absurd logical (by simp [notLogical])

/-- Another header leaves the operands guarded, if it does not take a mapping
away. -/
theorem everywhere_staysGuarded_withHeader
    {node : Node}
    {header : Header}
    (everywhere : node.Everywhere (StaysGuarded source))
    (keepsMapped : node.mapping.isSome = true → header.mapping.isSome = true) :
    (node.withHeader header).Everywhere (StaysGuarded source) := by
  refine everywhere_withHeader everywhere ?_
  have root := everywhere.root
  cases node with
  | leaf previous atom => trivial
  | apply previous op operand => exact root
  | combine previous op left right =>
      exact ⟨root.1, fun logical => keepsMapped (root.2 logical)⟩
  | call previous name arguments => trivial

/-- An operand inferred beside its sibling is guarded where the operand alone
is. -/
theorem everywhere_staysGuarded_inferBeside
    {node : Node}
    (sibling : Node)
    (everywhere : node.Everywhere (StaysGuarded source))
    (inferred : (node.infer source).Everywhere (StaysGuarded source)) :
    (node.inferBeside source sibling).Everywhere (StaysGuarded source) := by
  rcases inferBeside_cases source node sibling with
    alone | ⟨mapping, _, _, adopted, _, _⟩
  · rw [alone]
    exact inferred
  · rw [adopted]
    exact everywhere_staysGuarded_withHeader everywhere (fun _ => rfl)

/-- Inference leaves guarded operands guarded. -/
theorem everywhere_staysGuarded_infer
    (node : Node)
    (everywhere : node.Everywhere (StaysGuarded source)) :
    (node.infer source).Everywhere (StaysGuarded source) := by
  induction node using inductUnmapped with
  | mapped node mapped =>
      rw [infer_of_mapped source mapped]
      exact everywhere
  | leaf header atom unmapped =>
      rw [infer_leaf]
      exact (everywhere_leaf _ _).2 trivial
  | apply header op operand unmapped inductionHypothesis =>
      obtain ⟨root, operandEverywhere⟩ := (everywhere_apply _ _ _).1 everywhere
      rw [infer_apply source unmapped]
      refine (everywhere_apply _ _ _).2
        ⟨⟨?_, ?_⟩, inductionHypothesis operandEverywhere⟩
      · intro isNot bare
        refine root.1 isNot ⟨?_, by simpa using bare.2⟩
        exact (hasTruthMapping_iff_of_mapping_eq (root.2 isNot)).1 bare.1
      · intro _
        exact keepsMapping_infer source operand
  | combine header op left right unmapped leftHypothesis rightHypothesis =>
      obtain ⟨root, leftEverywhere, rightEverywhere⟩ :=
        (everywhere_combine _ _ _ _).1 everywhere
      -- a junction would have its mapping already
      have notLogical : op.isLogical = false := by
        cases logical : op.isLogical with
        | false => rfl
        | true =>
            have headerUnmapped : header.mapping = none := unmapped
            have mapped := root.2 logical
            rw [headerUnmapped] at mapped
            cases mapped
      rw [infer_combine source unmapped]
      exact everywhere_staysGuarded_combine notLogical
        (everywhere_staysGuarded_inferBeside right leftEverywhere
          (leftHypothesis leftEverywhere))
        (everywhere_staysGuarded_inferBeside left rightEverywhere
          (rightHypothesis rightEverywhere))
  | call header name arguments unmapped inductionHypothesis =>
      obtain ⟨root, argumentsEverywhere⟩ := (everywhere_call _ _ _).1 everywhere
      rw [infer_call source unmapped]
      refine (everywhere_call _ _ _).2 ⟨trivial, ?_⟩
      intro argument member
      obtain ⟨previous, inArguments, rfl⟩ := List.mem_map.1 member
      exact inductionHypothesis previous inArguments
        (argumentsEverywhere previous inArguments)

/-- What is made a condition keeps guarded operands guarded. -/
theorem everywhere_staysGuarded_toCondition
    {canonical : TypeMapping}
    {node : Node}
    (everywhere : node.Everywhere (StaysGuarded source)) :
    (node.toCondition canonical).Everywhere (StaysGuarded source) := by
  rcases toCondition_cases canonical node with unchanged | ⟨mapping, tested⟩
  · rw [unchanged]
    exact everywhere
  · rw [tested]
    exact everywhere_staysGuarded_combine rfl everywhere
      ((everywhere_leaf _ _).2 trivial)

/-- An expression that is not the null constant is guarded when its operands
are. -/
theorem isGuarded_of_not_null
    {node : Node}
    (everywhere : node.Everywhere (StaysGuarded source))
    (notNull : node.isNullConstant = false) :
    node.IsGuarded source where
  everywhere := everywhere
  untypedNull isNull := by
    rw [IsUntypedNull, notNull] at isNull
    cases isNull.1

theorem isGuarded_toNonNullable
    {node : Node}
    (guarded : node.IsGuarded source) :
    node.toNonNullable.IsGuarded source where
  everywhere := everywhere_staysGuarded_withHeader guarded.everywhere id
  untypedNull isNull := by
    have nodeIsNull : node.IsUntypedNull := by
      simpa [IsUntypedNull, toNonNullable, Node.valueType] using isNull
    simpa [toNonNullable, Node.mapping, Node.isCondition]
      using guarded.untypedNull nodeIsNull

/-- What the operand of a junction is when the junction is built: guarded, no
bare truth value, and erased if it has no mapping. -/
structure IsConditionOperand (source : MappingSource) (node : Node) : Prop where
  guarded : node.IsGuarded source
  notBare : ¬ node.IsBareTruth
  keeps : node.KeepsMapping source
  erased : node.mapping = none →
    node.valueType.kind = .object ∧ node.isCondition = false

section

variable (covers : source.Covers)

include covers

theorem isGuarded_infer {node : Node} (guarded : node.IsGuarded source) :
    (node.infer source).IsGuarded source where
  everywhere := everywhere_staysGuarded_infer node guarded.everywhere
  untypedNull isNull := by
    have nodeIsNull : node.IsUntypedNull := by
      simpa [IsUntypedNull] using isNull
    obtain ⟨unmapped, value⟩ := guarded.untypedNull nodeIsNull
    refine ⟨?_, by rw [isCondition_infer]; exact value⟩
    obtain ⟨header, rfl⟩ := eq_leaf_of_isNullConstant nodeIsNull.1
    rw [infer_leaf]
    exact (Header.mapping_resolve_eq_none_iff source _ _).2
      ⟨unmapped, value, rfl, covers.find_erased nodeIsNull.2⟩

/-- Inference leaves nothing but erased values without a mapping. -/
theorem erased_of_infer_unmapped
    {node : Node}
    (unmapped : (node.infer source).mapping = none) :
    (node.infer source).valueType.kind = .object ∧
      (node.infer source).isCondition = false := by
  rw [Node.mapping, header_infer] at unmapped
  obtain ⟨_, value, _, notFound⟩ :=
    (Header.mapping_resolve_eq_none_iff source _ _).1 unmapped
  rw [valueType_infer, isCondition_infer]
  exact ⟨covers.total _ notFound, value⟩

theorem isConditionOperand_conditionOperand
    {node : Node}
    (guarded : node.IsGuarded source) :
    (Lowering.conditionOperand source node).IsConditionOperand source := by
  have inferred := isGuarded_infer covers guarded
  have notBare :=
    not_isBareTruth_toCondition source.canonicalBoolean (node.infer source)
  unfold Lowering.conditionOperand
  rcases toCondition_cases source.canonicalBoolean (node.infer source) with
    unchanged | ⟨mapping, tested⟩
  · rw [unchanged] at notBare ⊢
    exact ⟨inferred, notBare, keepsMapping_infer source node,
      erased_of_infer_unmapped covers⟩
  · have everywhere :
        ((node.infer source).toCondition source.canonicalBoolean).Everywhere
          (StaysGuarded source) :=
      everywhere_staysGuarded_toCondition inferred.everywhere
    rw [tested] at notBare everywhere ⊢
    refine ⟨isGuarded_of_not_null everywhere rfl, notBare,
      keepsMapping_of_mapped source rfl, ?_⟩
    rintro ⟨⟩

end

/-- An operand of a junction is a bare truth value after inference exactly when
it is the untyped null constant and the other operand is mapped as a truth
value. -/
theorem isBareTruth_inferBeside_iff
    {node sibling : Node}
    (operand : node.IsConditionOperand source) :
    (node.inferBeside source sibling).IsBareTruth ↔
      (node.inferBeside source sibling).IsUntypedNull ∧
        (sibling.inferBeside source node).HasTruthMapping := by
  cases known : node.mapping with
  | some mapping =>
      rw [inferBeside_of_mapped source sibling (by simp [known])]
      constructor
      · exact fun bare => absurd bare operand.notBare
      · rintro ⟨isNull, _⟩
        have unmapped := (operand.guarded.untypedNull isNull).1
        rw [known] at unmapped
        cases unmapped
  | none =>
      obtain ⟨erased, value⟩ := operand.erased known
      rcases inferBeside_cases source node sibling with
        alone | ⟨mapping, _, accepted, adopted, siblingAlone, siblingKnown⟩
      · -- the operand stays without a mapping
        have unmapped : (node.inferBeside source sibling).mapping = none := by
          rw [alone, operand.keeps, known]
        constructor
        · exact fun bare =>
            absurd bare.1 (not_hasTruthMapping_of_unmapped unmapped)
        · rintro ⟨isNull, siblingTruth⟩
          have siblingUnmapped := mapping_sibling_of_unmapped_null source
            (by simpa using isNull.1) unmapped
          exact absurd siblingTruth
            (not_hasTruthMapping_of_unmapped siblingUnmapped)
      · -- it takes over the mapping of the other
        have nodeKnown :
            (node.inferBeside source sibling).mapping = some mapping := by
          rw [adopted, mapping_withMapping]
        have sameMapping : (node.inferBeside source sibling).mapping =
            (sibling.inferBeside source node).mapping := by
          rw [nodeKnown, siblingAlone, siblingKnown]
        rw [IsBareTruth, hasTruthMapping_iff_of_mapping_eq sameMapping]
        constructor
        · rintro ⟨truth, _⟩
          obtain ⟨other, otherKnown, isTruth⟩ := truth
          rw [← sameMapping, nodeKnown] at otherKnown
          cases otherKnown
          refine ⟨⟨?_, by simpa using erased⟩,
            ⟨mapping, by rw [← sameMapping, nodeKnown], isTruth⟩⟩
          rcases accepted with isNull | ofKind
          · simpa using isNull
          · rw [isTruth, erased] at ofKind
            cases ofKind
        · rintro ⟨_, truth⟩
          exact ⟨truth, by simpa using value⟩

/-- A junction of condition operands is guarded after inference. -/
theorem everywhere_staysGuarded_infer_junction
    {op : BinaryOp}
    {left right : Node}
    {valueType : ValueType}
    (logical : op.isLogical = true)
    (leftOperand : left.IsConditionOperand source)
    (rightOperand : right.IsConditionOperand source) :
    ((binary op left right valueType).infer source).Everywhere
      (StaysGuarded source) := by
  have condition : op.isCondition = true := by
    simp [BinaryOp.isCondition, logical]
  rw [binary, infer_combine source rfl]
  refine (everywhere_combine _ _ _ _).2 ⟨⟨?_, ?_⟩, ?_, ?_⟩
  · intro _
    exact ⟨isBareTruth_inferBeside_iff leftOperand,
      isBareTruth_inferBeside_iff rightOperand⟩
  · intro _
    rw [Header.mapping_resolve_of_isCondition source _ rfl condition]
    rfl
  · exact everywhere_staysGuarded_inferBeside right
      leftOperand.guarded.everywhere
      (everywhere_staysGuarded_infer left leftOperand.guarded.everywhere)
  · exact everywhere_staysGuarded_inferBeside left
      rightOperand.guarded.everywhere
      (everywhere_staysGuarded_infer right rightOperand.guarded.everywhere)

end Node
end Sql
end QueryLowering
