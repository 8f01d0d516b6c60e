import QueryLowering.Proofs.Tree
import QueryLowering.Sql.Inference

/-!
# What the inference of type mappings does

One equation for each kind of node says what inference makes of it. A finished
node stays as it is, and of any other node only the mapping changes at the root.
The operands of a binary node are inferred side by side: an operand without a
mapping is inferred on its own unless it takes over the mapping of its sibling,
and nothing else can happen to it.
-/

namespace QueryLowering
namespace Sql

namespace Header

variable (source : MappingSource)

@[simp] theorem valueType_resolve
    (header : Header)
    (inherited : Option TypeMapping) :
    (header.resolve source inherited).valueType = header.valueType := by
  unfold resolve
  split
  · rfl
  · split <;> rfl

@[simp] theorem isCondition_resolve
    (header : Header)
    (inherited : Option TypeMapping) :
    (header.resolve source inherited).isCondition = header.isCondition := by
  unfold resolve
  split
  · rfl
  · split <;> rfl

/-- A header with a mapping is resolved already. -/
theorem resolve_of_mapped
    {header : Header}
    (inherited : Option TypeMapping)
    (mapped : header.mapping.isSome = true) :
    header.resolve source inherited = header := by
  simp [resolve, mapped]

/-- A condition without a mapping takes the canonical one. -/
theorem mapping_resolve_of_isCondition
    {header : Header}
    (inherited : Option TypeMapping)
    (unmapped : header.mapping = none)
    (condition : header.isCondition = true) :
    (header.resolve source inherited).mapping =
      some source.canonicalBoolean := by
  simp [resolve, unmapped, condition]

/-- A value without a mapping takes the inherited one, else that of its type. -/
theorem mapping_resolve_of_value
    {header : Header}
    (inherited : Option TypeMapping)
    (unmapped : header.mapping = none)
    (value : header.isCondition = false) :
    (header.resolve source inherited).mapping =
      inherited.or (source.find header.valueType) := by
  simp [resolve, unmapped, value]

/-- A header stays without a mapping exactly when it has none, is no condition,
inherits nothing, and has a type that the source does not know. -/
theorem mapping_resolve_eq_none_iff
    (header : Header)
    (inherited : Option TypeMapping) :
    (header.resolve source inherited).mapping = none ↔
      header.mapping = none ∧ header.isCondition = false ∧
        inherited = none ∧ source.find header.valueType = none := by
  cases mapped : header.mapping with
  | some mapping => simp [resolve, mapped]
  | none =>
      cases condition : header.isCondition with
      | true => simp [resolve, mapped, condition]
      | false => simp [resolve, mapped, condition]

/-- A header that stays without a mapping does not change at all. -/
theorem resolve_eq_self_of_unmapped
    {header : Header}
    {inherited : Option TypeMapping}
    (unmapped : (header.resolve source inherited).mapping = none) :
    header.resolve source inherited = header := by
  obtain ⟨noMapping, value, noInherited, noFound⟩ :=
    (mapping_resolve_eq_none_iff source header inherited).1 unmapped
  obtain ⟨valueType, mapping, isCondition⟩ := header
  simp_all [resolve]

end Header

namespace Node

variable (source : MappingSource)

/-- An operand that takes over the mapping its sibling has already, or is
inferred on its own. -/
def inferAlone (node sibling : Node) : Node :=
  match node.mapping, node.adopted? sibling with
  | none, some mapping => node.withMapping mapping
  | _, _ => node.infer source

/-- An operand of a binary node, inferred beside its sibling. -/
def inferBeside (node sibling : Node) : Node :=
  (node.inferAlone source sibling).fillNull (sibling.inferAlone source node)

theorem inferAll_eq_map (nodes : List Node) :
    inferAll source nodes = nodes.map (infer source) := by
  induction nodes with
  | nil => rfl
  | cons node rest inductionHypothesis => simp [inferAll, inductionHypothesis]

/-- A finished node is not changed. -/
theorem infer_of_mapped {node : Node} (mapped : node.mapping.isSome = true) :
    node.infer source = node := by
  cases node with
  | leaf header atom =>
      have resolved : header.resolve source none = header :=
        Header.resolve_of_mapped source none mapped
      rw [infer, resolved]
  | apply header op operand =>
      have headerMapped : header.mapping.isSome = true := mapped
      rw [infer, if_pos headerMapped]
  | combine header op left right =>
      have headerMapped : header.mapping.isSome = true := mapped
      rw [infer, if_pos headerMapped]
  | call header name arguments =>
      have headerMapped : header.mapping.isSome = true := mapped
      rw [infer, if_pos headerMapped]

@[simp] theorem infer_leaf (header : Header) (atom : Atom) :
    (Node.leaf header atom).infer source =
      .leaf (header.resolve source none) atom := by
  rw [infer]

theorem infer_apply
    {header : Header}
    {op : UnaryOp}
    {operand : Node}
    (unmapped : (Node.apply header op operand).mapping = none) :
    (Node.apply header op operand).infer source =
      .apply
        (header.resolve source
          (inheritedFromOperand op header.valueType (operand.infer source)))
        op (operand.infer source) := by
  have headerUnmapped : header.mapping = none := unmapped
  simp [infer, headerUnmapped]

theorem infer_combine
    {header : Header}
    {op : BinaryOp}
    {left right : Node}
    (unmapped : (Node.combine header op left right).mapping = none) :
    (Node.combine header op left right).infer source =
      .combine
        (header.resolve source
          (inheritedFromPair op header.valueType
            (left.inferBeside source right) (right.inferBeside source left)))
        op (left.inferBeside source right) (right.inferBeside source left) := by
  have headerUnmapped : header.mapping = none := unmapped
  rw [infer, if_neg (by simp [headerUnmapped])]
  rfl

theorem infer_call
    {header : Header}
    {name : String}
    {arguments : List Node}
    (unmapped : (Node.call header name arguments).mapping = none) :
    (Node.call header name arguments).infer source =
      .call (header.resolve source none) name
        (arguments.map (infer source)) := by
  have headerUnmapped : header.mapping = none := unmapped
  simp [infer, headerUnmapped, inferAll_eq_map]

/-- What the root of a node inherits when its operands are inferred. -/
def inherited : Node → Option TypeMapping
  | .leaf _ _ => none
  | .apply header op operand =>
      inheritedFromOperand op header.valueType (operand.infer source)
  | .combine header op left right =>
      inheritedFromPair op header.valueType
        (left.inferBeside source right) (right.inferBeside source left)
  | .call _ _ _ => none

/-- The header of an inferred node is its header, resolved. -/
theorem header_infer (node : Node) :
    (node.infer source).header =
      node.header.resolve source (node.inherited source) := by
  cases mapped : node.mapping with
  | some mapping =>
      have isMapped : node.mapping.isSome = true := by simp [mapped]
      rw [infer_of_mapped source isMapped]
      exact (Header.resolve_of_mapped source _ isMapped).symm
  | none =>
      cases node with
      | leaf header atom => rw [infer_leaf]; rfl
      | apply header op operand => rw [infer_apply source mapped]; rfl
      | combine header op left right => rw [infer_combine source mapped]; rfl
      | call header name arguments => rw [infer_call source mapped]; rfl

@[simp] theorem valueType_infer (node : Node) :
    (node.infer source).valueType = node.valueType := by
  simp [Node.valueType, header_infer]

@[simp] theorem isCondition_infer (node : Node) :
    (node.infer source).isCondition = node.isCondition := by
  simp [Node.isCondition, header_infer]

@[simp] theorem isNullConstant_withHeader (node : Node) (header : Header) :
    (node.withHeader header).isNullConstant = node.isNullConstant := by
  cases node with
  | leaf _ atom =>
      cases atom with
      | constant value => cases value <;> rfl
      | fragment sql => rfl
      | parameter name => rfl
      | column column => rfl
  | apply _ op operand => rfl
  | combine _ op left right => rfl
  | call _ name arguments => rfl

@[simp] theorem isNullConstant_withMapping
    (node : Node)
    (mapping : TypeMapping) :
    (node.withMapping mapping).isNullConstant = node.isNullConstant := by
  simp [withMapping]

@[simp] theorem isNullConstant_infer (node : Node) :
    (node.infer source).isNullConstant = node.isNullConstant := by
  cases mapped : node.mapping with
  | some mapping => rw [infer_of_mapped source (by simp [mapped])]
  | none =>
      cases node with
      | leaf header atom =>
          rw [infer_leaf]
          exact isNullConstant_withHeader (.leaf header atom)
            (header.resolve source none)
      | apply header op operand => rw [infer_apply source mapped]; rfl
      | combine header op left right => rw [infer_combine source mapped]; rfl
      | call header name arguments => rw [infer_call source mapped]; rfl

/-- The null constant is a leaf. -/
theorem eq_leaf_of_isNullConstant
    {node : Node}
    (isNull : node.isNullConstant = true) :
    ∃ header, node = .leaf header (.constant .null) := by
  cases node with
  | leaf header atom =>
      cases atom with
      | constant value =>
          cases value with
          | null => exact ⟨header, rfl⟩
          | _ => simp [isNullConstant] at isNull
      | _ => simp [isNullConstant] at isNull
  | _ => simp [isNullConstant] at isNull

/-- The null constant that gets no mapping is not changed. -/
theorem infer_eq_self_of_unmapped_null
    {node : Node}
    (isNull : node.isNullConstant = true)
    (unmapped : (node.infer source).mapping = none) :
    node.infer source = node := by
  obtain ⟨header, rfl⟩ := eq_leaf_of_isNullConstant isNull
  rw [infer_leaf] at unmapped ⊢
  rw [Header.resolve_eq_self_of_unmapped source unmapped]

/-- A node takes over the mapping of a sibling that has one, if it is the null
constant or if the mapping is of its kind. -/
theorem adopted?_eq_some_iff (node sibling : Node) (mapping : TypeMapping) :
    node.adopted? sibling = some mapping ↔
      sibling.mapping = some mapping ∧
        (node.isNullConstant = true ∨ mapping.kind = node.valueType.kind) := by
  simp [adopted?, Option.filter_eq_some_iff]

theorem adopted?_of_sibling_unmapped
    {node sibling : Node}
    (unmapped : sibling.mapping = none) :
    node.adopted? sibling = none := by
  simp [adopted?, unmapped]

theorem fillNull_of_mapped
    {node : Node}
    (sibling : Node)
    (mapped : node.mapping.isSome = true) :
    node.fillNull sibling = node := by
  obtain ⟨mapping, known⟩ := Option.isSome_iff_exists.1 mapped
  simp [fillNull, known]

theorem fillNull_of_sibling_unmapped
    {node sibling : Node}
    (unmapped : sibling.mapping = none) :
    node.fillNull sibling = node := by
  cases known : node.mapping with
  | none => simp [fillNull, known, unmapped]
  | some mapping => simp [fillNull, known]

theorem fillNull_of_not_null
    {node : Node}
    (sibling : Node)
    (notNull : node.isNullConstant = false) :
    node.fillNull sibling = node := by
  unfold fillNull
  split
  · simp [notNull]
  · rfl

theorem fillNull_of_null
    {node sibling : Node}
    {mapping : TypeMapping}
    (isNull : node.isNullConstant = true)
    (unmapped : node.mapping = none)
    (siblingMapped : sibling.mapping = some mapping) :
    node.fillNull sibling = node.withMapping mapping := by
  simp [fillNull, unmapped, siblingMapped, isNull]

theorem inferAlone_of_mapped
    {node : Node}
    (sibling : Node)
    (mapped : node.mapping.isSome = true) :
    node.inferAlone source sibling = node := by
  obtain ⟨mapping, known⟩ := Option.isSome_iff_exists.1 mapped
  simp only [inferAlone, known]
  exact infer_of_mapped source mapped

theorem inferAlone_of_adopts
    {node sibling : Node}
    {mapping : TypeMapping}
    (unmapped : node.mapping = none)
    (adopts : node.adopted? sibling = some mapping) :
    node.inferAlone source sibling = node.withMapping mapping := by
  simp only [inferAlone, unmapped, adopts]

theorem inferAlone_of_keeps
    {node sibling : Node}
    (keeps : node.adopted? sibling = none) :
    node.inferAlone source sibling = node.infer source := by
  simp [inferAlone, keeps]

/-- A mapped operand is not changed beside any sibling. -/
theorem inferBeside_of_mapped
    {node : Node}
    (sibling : Node)
    (mapped : node.mapping.isSome = true) :
    node.inferBeside source sibling = node := by
  rw [inferBeside, inferAlone_of_mapped source sibling mapped,
    fillNull_of_mapped _ mapped]

/-- An operand that cannot take over a mapping and whose sibling gets none is
inferred on its own. -/
theorem inferBeside_of_keeps
    {node sibling : Node}
    (keeps : node.adopted? sibling = none)
    (filled : (node.infer source).mapping.isSome = true ∨
      node.isNullConstant = false ∨
      (sibling.inferAlone source node).mapping = none) :
    node.inferBeside source sibling = node.infer source := by
  rw [inferBeside, inferAlone_of_keeps source keeps]
  rcases filled with mapped | notNull | siblingUnmapped
  · exact fillNull_of_mapped _ mapped
  · exact fillNull_of_not_null _ (by simpa using notNull)
  · exact fillNull_of_sibling_unmapped siblingUnmapped

/-- All that can happen to an operand: it is inferred on its own, or it has no
mapping and takes over the one its sibling is inferred to have. -/
theorem inferBeside_cases (node sibling : Node) :
    node.inferBeside source sibling = node.infer source ∨
      ∃ mapping,
        node.mapping = none ∧
        (node.isNullConstant = true ∨ mapping.kind = node.valueType.kind) ∧
        node.inferBeside source sibling = node.withMapping mapping ∧
        sibling.inferBeside source node = sibling.infer source ∧
        (sibling.infer source).mapping = some mapping := by
  cases known : node.mapping with
  | some mapping =>
      have mapped : node.mapping.isSome = true := by simp [known]
      left
      rw [inferBeside_of_mapped source sibling mapped,
        infer_of_mapped source mapped]
  | none =>
      cases adopts : node.adopted? sibling with
      | some mapping =>
          obtain ⟨siblingKnown, accepted⟩ :=
            (adopted?_eq_some_iff node sibling mapping).1 adopts
          have siblingMapped : sibling.mapping.isSome = true := by
            simp [siblingKnown]
          right
          refine ⟨mapping, rfl, accepted, ?_, ?_, ?_⟩
          · rw [inferBeside, inferAlone_of_adopts source known adopts]
            exact fillNull_of_mapped _ (by simp)
          · rw [inferBeside_of_mapped source node siblingMapped,
              infer_of_mapped source siblingMapped]
          · rw [infer_of_mapped source siblingMapped, siblingKnown]
      | none =>
          have siblingAlone : sibling.inferAlone source node =
              sibling.infer source :=
            inferAlone_of_keeps source (adopted?_of_sibling_unmapped known)
          cases isNull : node.isNullConstant with
          | false =>
              exact .inl
                (inferBeside_of_keeps source adopts (.inr (.inl isNull)))
          | true =>
              cases own : (node.infer source).mapping with
              | some mapping =>
                  exact .inl
                    (inferBeside_of_keeps source adopts (.inl (by simp [own])))
              | none =>
                  cases siblingOwn : (sibling.infer source).mapping with
                  | none =>
                      exact .inl (inferBeside_of_keeps source adopts
                        (.inr (.inr (by rw [siblingAlone, siblingOwn]))))
                  | some mapping =>
                      -- the null constant is filled from its sibling
                      have unchanged : node.infer source = node :=
                        infer_eq_self_of_unmapped_null source isNull own
                      right
                      refine ⟨mapping, rfl, .inl rfl, ?_, ?_, rfl⟩
                      · rw [inferBeside, inferAlone_of_keeps source adopts,
                          unchanged, siblingAlone]
                        exact fillNull_of_null isNull known siblingOwn
                      · rw [inferBeside, siblingAlone]
                        exact fillNull_of_mapped _ (by simp [siblingOwn])

@[simp] theorem valueType_inferBeside (node sibling : Node) :
    (node.inferBeside source sibling).valueType = node.valueType := by
  rcases inferBeside_cases source node sibling with
    alone | ⟨mapping, _, _, adopted, _, _⟩
  · rw [alone, valueType_infer]
  · rw [adopted, valueType_withMapping]

@[simp] theorem isCondition_inferBeside (node sibling : Node) :
    (node.inferBeside source sibling).isCondition = node.isCondition := by
  rcases inferBeside_cases source node sibling with
    alone | ⟨mapping, _, _, adopted, _, _⟩
  · rw [alone, isCondition_infer]
  · rw [adopted, isCondition_withMapping]

@[simp] theorem isNullConstant_inferBeside (node sibling : Node) :
    (node.inferBeside source sibling).isNullConstant = node.isNullConstant := by
  rcases inferBeside_cases source node sibling with
    alone | ⟨mapping, _, _, adopted, _, _⟩
  · rw [alone, isNullConstant_infer]
  · rw [adopted, isNullConstant_withMapping]

/-- An operand that stays without a mapping was inferred on its own. -/
theorem inferBeside_eq_infer_of_unmapped
    {node sibling : Node}
    (unmapped : (node.inferBeside source sibling).mapping = none) :
    node.inferBeside source sibling = node.infer source := by
  rcases inferBeside_cases source node sibling with
    alone | ⟨mapping, _, _, adopted, _, _⟩
  · exact alone
  · rw [adopted, mapping_withMapping] at unmapped
    cases unmapped

/-- What holds of every mapped node, and of an operand inferred alone, holds of
the operand beside any sibling. -/
theorem inferBeside_of_mapped_of_alone
    {holds : Node → Prop}
    {node : Node}
    (sibling : Node)
    (mapped : ∀ other : Node, other.mapping.isSome = true → holds other)
    (alone : holds (node.infer source)) :
    holds (node.inferBeside source sibling) := by
  cases known : (node.inferBeside source sibling).mapping with
  | some mapping => exact mapped _ (by simp [known])
  | none =>
      rw [inferBeside_eq_infer_of_unmapped source known]
      exact alone

/-- An operand that stays without a mapping leaves nothing to take over: it is
neither the null constant beside a mapped sibling, nor was its sibling mapped
before with a mapping of its kind. -/
theorem adopted?_eq_none_of_unmapped
    {node sibling : Node}
    (unmapped : (node.inferBeside source sibling).mapping = none) :
    node.adopted? sibling = none := by
  cases adopts : node.adopted? sibling with
  | none => rfl
  | some mapping =>
      have nodeUnmapped : node.mapping = none := by
        cases known : node.mapping with
        | none => rfl
        | some own =>
            rw [inferBeside_of_mapped source sibling (by simp [known]),
              known] at unmapped
            cases unmapped
      rw [inferBeside, inferAlone_of_adopts source nodeUnmapped adopts,
        fillNull_of_mapped _ (by simp), mapping_withMapping] at unmapped
      cases unmapped

/-- The null constant stays without a mapping only beside a sibling that
does. -/
theorem mapping_sibling_of_unmapped_null
    {node sibling : Node}
    (isNull : node.isNullConstant = true)
    (unmapped : (node.inferBeside source sibling).mapping = none) :
    (sibling.inferBeside source node).mapping = none := by
  have keeps : node.adopted? sibling = none :=
    adopted?_eq_none_of_unmapped source unmapped
  have alone : node.inferAlone source sibling = node.infer source :=
    inferAlone_of_keeps source keeps
  have own : (node.infer source).mapping = none := by
    rw [← inferBeside_eq_infer_of_unmapped source unmapped]
    exact unmapped
  cases siblingOwn : (sibling.inferAlone source node).mapping with
  | none =>
      rw [inferBeside, fillNull_of_sibling_unmapped (by rw [alone, own])]
      exact siblingOwn
  | some mapping =>
      have filled := fillNull_of_null (by simpa using isNull) own siblingOwn
      rw [inferBeside, alone, filled, mapping_withMapping] at unmapped
      cases unmapped

end Node
end Sql
end QueryLowering
