import QueryLowering.Proofs.Sql.Guarded

/-!
# Marks of conditions

Every node carries a flag that tells whether it is a condition, fixed when the
node is built. The flag agrees with the form of the node, and a condition has
the canonical boolean mapping: inference gives it to a condition that has none,
and nothing takes it away again. Operands that take over the mapping of a
sibling have none before, so they are no conditions, and a text operand of a
concatenation is none since all conditions are of the boolean kind.
-/

namespace QueryLowering
namespace Sql

namespace BinaryOp

/-- The operators whose result is a truth value: tests for equality and order,
matches with a pattern, and the operators that join conditions. -/
def conditions : List BinaryOp :=
  [.equal, .notEqual, .lessThan, .lessThanOrEqual, .greaterThan,
    .greaterThanOrEqual, .like, .and, .or]

theorem mem_conditions_iff (op : BinaryOp) :
    op ∈ conditions ↔ op.isCondition = true := by
  cases op <;> decide

end BinaryOp

namespace Node

/-- The forms that denote conditions: null tests, negations of conditions, and
binary nodes whose operator gives one. -/
def IsConditionForm : Node → Prop
  | .apply _ op operand =>
      (∃ negated, op = .nullTest negated) ∨
        op = .not ∧ operand.isCondition = true
  | .combine _ op _ _ => op ∈ BinaryOp.conditions
  | .leaf _ _ | .call _ _ _ => False

/-- The flag is that of the form, and a condition carries the canonical
mapping. -/
structure MarksCondition (canonical : TypeMapping) (node : Node) : Prop where
  flag : node.isCondition = true ↔ node.IsConditionForm
  mapped : node.isCondition = true → node.mapping = some canonical

/-- The node is marked, and a condition is of the boolean kind. -/
structure StaysMarked (canonical : TypeMapping) (node : Node) : Prop where
  marks : node.MarksCondition canonical
  truth : node.isCondition = true → node.valueType.kind = .boolean

@[simp] theorem isConditionForm_withHeader (node : Node) (header : Header) :
    (node.withHeader header).IsConditionForm ↔ node.IsConditionForm := by
  cases node <;> rfl

/-- Inference keeps the form, since it keeps the flag of a negated operand. -/
@[simp] theorem isConditionForm_infer (source : MappingSource) (node : Node) :
    (node.infer source).IsConditionForm ↔ node.IsConditionForm := by
  cases mapped : node.mapping with
  | some mapping => rw [infer_of_mapped source (by simp [mapped])]
  | none =>
      cases node with
      | leaf header atom => rw [infer_leaf]; rfl
      | apply header op operand =>
          rw [infer_apply source mapped]
          simp [IsConditionForm]
      | combine header op left right => rw [infer_combine source mapped]; rfl
      | call header name arguments => rw [infer_call source mapped]; rfl

variable {canonical : TypeMapping} {source : MappingSource}

/-- What is no condition need not carry the canonical mapping, nor be a truth
value. -/
theorem staysMarked_of_value
    {node : Node}
    (value : node.isCondition = false)
    (notForm : ¬ node.IsConditionForm) :
    node.StaysMarked canonical := by
  have noCondition : node.isCondition ≠ true := by simp [value]
  exact ⟨⟨iff_of_false noCondition notForm,
      fun condition => absurd condition noCondition⟩,
    fun condition => absurd condition noCondition⟩

/-- A leaf or a call that carries no flag is marked. -/
theorem staysMarked_leaf
    {header : Header}
    (atom : Atom)
    (value : header.isCondition = false) :
    (Node.leaf header atom).Everywhere (StaysMarked canonical) :=
  (everywhere_leaf _ _).2 (staysMarked_of_value value id)

/-- A header with the same flag keeps a node marked, if it changes neither
mapping nor kind of a condition. -/
theorem everywhere_staysMarked_withHeader
    {node : Node}
    {header : Header}
    (everywhere : node.Everywhere (StaysMarked canonical))
    (sameFlag : header.isCondition = node.isCondition)
    (kept : node.isCondition = true →
      header.mapping = node.mapping ∧
        header.valueType.kind = node.valueType.kind) :
    (node.withHeader header).Everywhere (StaysMarked canonical) := by
  have root : node.StaysMarked canonical := everywhere.root
  have flagKept : (node.withHeader header).isCondition = node.isCondition := by
    rw [Node.isCondition, header_withHeader, sameFlag]
  refine everywhere_withHeader everywhere ⟨⟨?_, ?_⟩, ?_⟩
  · rw [flagKept, isConditionForm_withHeader]
    exact root.marks.flag
  · rw [flagKept, Node.mapping, header_withHeader]
    intro condition
    rw [(kept condition).1]
    exact root.marks.mapped condition
  · rw [flagKept, Node.valueType, header_withHeader]
    intro condition
    rw [(kept condition).2]
    exact root.truth condition

/-- What is no condition may get any mapping. -/
theorem everywhere_staysMarked_withMapping
    {node : Node}
    (mapping : TypeMapping)
    (everywhere : node.Everywhere (StaysMarked canonical))
    (value : node.isCondition = false) :
    (node.withMapping mapping).Everywhere (StaysMarked canonical) := by
  refine everywhere_staysMarked_withHeader everywhere rfl fun condition => ?_
  rw [value] at condition
  cases condition

theorem everywhere_staysMarked_toNonNullable
    {node : Node}
    (everywhere : node.Everywhere (StaysMarked canonical)) :
    node.toNonNullable.Everywhere (StaysMarked canonical) :=
  everywhere_staysMarked_withHeader everywhere rfl fun _ => ⟨rfl, rfl⟩

/-- A text is no condition. -/
theorem isCondition_eq_false_of_isTextual
    {node : Node}
    (marked : node.StaysMarked canonical)
    (textual : node.valueType.isTextual = true) :
    node.isCondition = false := by
  cases condition : node.isCondition with
  | false => rfl
  | true =>
      have isText : node.valueType.kind = .string := by
        simpa [ValueType.isTextual] using textual
      rw [marked.truth condition] at isText
      cases isText

/-- A marked node without a mapping is no condition. -/
theorem isCondition_eq_false_of_unmapped
    {node : Node}
    (marked : node.StaysMarked canonical)
    (unmapped : node.mapping = none) :
    node.isCondition = false := by
  cases condition : node.isCondition with
  | false => rfl
  | true =>
      have mapped := marked.marks.mapped condition
      rw [unmapped] at mapped
      cases mapped

/-- Inference marks a node that lacks its mapping but has the flag of its form
and, as a condition, the boolean kind. -/
theorem staysMarked_infer
    {node : Node}
    (unmapped : node.mapping = none)
    (flag : node.isCondition = true ↔ node.IsConditionForm)
    (truth : node.isCondition = true → node.valueType.kind = .boolean) :
    (node.infer source).StaysMarked source.canonicalBoolean where
  marks :=
    { flag := by rw [isCondition_infer, isConditionForm_infer, flag]
      mapped := by
        rw [isCondition_infer, Node.mapping, header_infer]
        exact Header.mapping_resolve_of_isCondition source _ unmapped }
  truth := by
    rw [isCondition_infer, valueType_infer]
    exact truth

theorem everywhere_staysMarked_infer_apply
    {header : Header}
    {op : UnaryOp}
    {operand : Node}
    (unmapped : header.mapping = none)
    (flag : header.isCondition = true ↔
      (Node.apply header op operand).IsConditionForm)
    (truth : header.isCondition = true → header.valueType.kind = .boolean)
    (operandMarked :
      (operand.infer source).Everywhere (StaysMarked source.canonicalBoolean)) :
    ((Node.apply header op operand).infer source).Everywhere
      (StaysMarked source.canonicalBoolean) := by
  have root : ((Node.apply header op operand).infer source).StaysMarked
      source.canonicalBoolean := staysMarked_infer unmapped flag truth
  rw [infer_apply source unmapped] at root ⊢
  exact (everywhere_apply _ _ _).2 ⟨root, operandMarked⟩

/-- An operand inferred beside its sibling is marked where the operand alone
is. -/
theorem everywhere_staysMarked_inferBeside
    {node : Node}
    (sibling : Node)
    (everywhere : node.Everywhere (StaysMarked canonical))
    (inferred : (node.infer source).Everywhere (StaysMarked canonical)) :
    (node.inferBeside source sibling).Everywhere (StaysMarked canonical) := by
  rcases inferBeside_cases source node sibling with
    alone | ⟨mapping, unmapped, _, adopted, _, _⟩
  · rw [alone]
    exact inferred
  · rw [adopted]
    exact everywhere_staysMarked_withMapping mapping everywhere
      (isCondition_eq_false_of_unmapped everywhere.root unmapped)

theorem everywhere_staysMarked_infer_combine
    {header : Header}
    {op : BinaryOp}
    {left right : Node}
    (unmapped : header.mapping = none)
    (flag : header.isCondition = op.isCondition)
    (truth : header.isCondition = true → header.valueType.kind = .boolean)
    (leftMarked :
      (left.inferBeside source right).Everywhere
        (StaysMarked source.canonicalBoolean))
    (rightMarked :
      (right.inferBeside source left).Everywhere
        (StaysMarked source.canonicalBoolean)) :
    ((Node.combine header op left right).infer source).Everywhere
      (StaysMarked source.canonicalBoolean) := by
  have ofForm : header.isCondition = true ↔ op ∈ BinaryOp.conditions := by
    rw [flag, BinaryOp.mem_conditions_iff]
  have root : ((Node.combine header op left right).infer source).StaysMarked
      source.canonicalBoolean := staysMarked_infer unmapped ofForm truth
  rw [infer_combine source unmapped] at root ⊢
  exact (everywhere_combine _ _ _ _).2 ⟨root, leftMarked, rightMarked⟩

theorem everywhere_staysMarked_infer_call
    {header : Header}
    {name : String}
    {arguments : List Node}
    (unmapped : header.mapping = none)
    (value : header.isCondition = false)
    (argumentsMarked : ∀ argument, argument ∈ arguments →
      (argument.infer source).Everywhere
        (StaysMarked source.canonicalBoolean)) :
    ((Node.call header name arguments).infer source).Everywhere
      (StaysMarked source.canonicalBoolean) := by
  rw [infer_call source unmapped]
  refine (everywhere_call _ _ _).2 ⟨staysMarked_of_value ?_ id, ?_⟩
  · rw [Node.isCondition, header_call, Header.isCondition_resolve, value]
  · simpa using argumentsMarked

/-- Inference leaves a marked expression marked. -/
theorem everywhere_staysMarked_infer
    (node : Node)
    (everywhere : node.Everywhere (StaysMarked source.canonicalBoolean)) :
    (node.infer source).Everywhere (StaysMarked source.canonicalBoolean) := by
  induction node using inductUnmapped with
  | mapped node mapped =>
      rw [infer_of_mapped source mapped]
      exact everywhere
  | leaf header atom unmapped =>
      rw [infer_leaf]
      refine staysMarked_leaf atom ?_
      rw [Header.isCondition_resolve]
      exact isCondition_eq_false_of_unmapped everywhere.root unmapped
  | apply header op operand unmapped inductionHypothesis =>
      obtain ⟨root, operandMarked⟩ := (everywhere_apply _ _ _).1 everywhere
      exact everywhere_staysMarked_infer_apply unmapped root.marks.flag
        root.truth (inductionHypothesis operandMarked)
  | combine header op left right unmapped leftHypothesis rightHypothesis =>
      obtain ⟨root, leftMarked, rightMarked⟩ :=
        (everywhere_combine _ _ _ _).1 everywhere
      refine everywhere_staysMarked_infer_combine unmapped ?_ root.truth
        (everywhere_staysMarked_inferBeside right leftMarked
          (leftHypothesis leftMarked))
        (everywhere_staysMarked_inferBeside left rightMarked
          (rightHypothesis rightMarked))
      exact Bool.eq_iff_iff.2
        (root.marks.flag.trans (BinaryOp.mem_conditions_iff op))
  | call header name arguments unmapped inductionHypothesis =>
      obtain ⟨root, argumentsMarked⟩ := (everywhere_call _ _ _).1 everywhere
      exact everywhere_staysMarked_infer_call unmapped
        (isCondition_eq_false_of_unmapped root unmapped)
        (fun argument member =>
          inductionHypothesis argument member (argumentsMarked argument member))

/-- What is built over marked operands with the flag of its operator is marked
once it is inferred. -/
theorem everywhere_staysMarked_infer_binary
    {op : BinaryOp}
    {left right : Node}
    {valueType : ValueType}
    (truth : op.isCondition = true → valueType.kind = .boolean)
    (leftMarked : left.Everywhere (StaysMarked source.canonicalBoolean))
    (rightMarked : right.Everywhere (StaysMarked source.canonicalBoolean)) :
    ((binary op left right valueType).infer source).Everywhere
      (StaysMarked source.canonicalBoolean) :=
  everywhere_staysMarked_infer_combine rfl rfl truth
    (everywhere_staysMarked_inferBeside right leftMarked
      (everywhere_staysMarked_infer left leftMarked))
    (everywhere_staysMarked_inferBeside left rightMarked
      (everywhere_staysMarked_infer right rightMarked))

/-- A marked expression stays so when it is made a condition. -/
theorem everywhere_staysMarked_toCondition
    {node : Node}
    (everywhere : node.Everywhere (StaysMarked canonical)) :
    (node.toCondition canonical).Everywhere (StaysMarked canonical) := by
  rcases toCondition_cases canonical node with unchanged | ⟨mapping, tested⟩
  · rw [unchanged]
    exact everywhere
  · rw [tested]
    refine (everywhere_combine _ _ _ _).2
      ⟨?_, everywhere, staysMarked_leaf _ rfl⟩
    exact ⟨⟨iff_of_true rfl ((BinaryOp.mem_conditions_iff .equal).2 rfl),
        fun _ => rfl⟩, fun _ => rfl⟩

end Node
end Sql
end QueryLowering
