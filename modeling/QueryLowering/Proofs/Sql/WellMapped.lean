import QueryLowering.Proofs.Sql.Settling
import QueryLowering.Sql.Condition

/-!
# Well-mapped expressions

Under a source that maps every kind but the erased one, an expression is well
mapped when each node of another kind has a mapping, that mapping is of the kind
of the node or the node is the null constant, and inference has nothing left to
do. Mappings of the erased kind do not occur at all.

What is built over well-mapped operands, and over leaves that still lack their
mapping, is well mapped after inference. The operands of a binary node matter
twice, since one of them may take over the mapping of the other without being
inferred itself.
-/

namespace QueryLowering

namespace MappingSource

/-- The source maps every type but the erased one, and every type and truth
values to their own kind. -/
structure Covers (source : MappingSource) : Prop where
  total : ∀ valueType, source.find valueType = none → valueType.kind = .object
  ofKind : ∀ valueType mapping,
    source.find valueType = some mapping →
    mapping.kind = valueType.kind ∧ mapping.kind ≠ .object
  canonical : source.canonicalBoolean.kind = .boolean

theorem Covers.find_erased
    {source : MappingSource}
    (covers : source.Covers)
    {valueType : ValueType}
    (erased : valueType.kind = .object) :
    source.find valueType = none := by
  cases found : source.find valueType with
  | none => rfl
  | some mapping =>
      obtain ⟨ofKind, notErased⟩ := covers.ofKind valueType mapping found
      exact absurd (ofKind.trans erased) notErased

end MappingSource

namespace Dialect

@[simp] theorem kind_withLiterals (dialect : Dialect) (mapping : TypeMapping) :
    (dialect.withLiterals mapping).kind = mapping.kind := by
  unfold withLiterals
  split <;> rfl

/-- The mapping of a kind is one of this kind. -/
theorem kind_of_mapping?
    {dialect : Dialect}
    {kind : Kind}
    {mapping : TypeMapping}
    (known : dialect.mapping? kind = some mapping) :
    mapping.kind = kind := by
  obtain ⟨storeType, _, rfl⟩ := Option.map_eq_some_iff.1 known
  simp [TypeMapping.ofStoreType]

/-- Only the erased kind has no mapping. -/
theorem mapping?_eq_none_iff (dialect : Dialect) (kind : Kind) :
    dialect.mapping? kind = none ↔ kind = .object := by
  rw [mapping?, Option.map_eq_none_iff]
  cases kind <;> cases dialect <;> simp [storeType?]

/-- The mappings of every dialect cover all kinds. -/
theorem mappings_covers (dialect : Dialect) : dialect.mappings.Covers where
  total valueType := (mapping?_eq_none_iff dialect valueType.kind).1
  ofKind valueType mapping known := by
    have ofKind : mapping.kind = valueType.kind := kind_of_mapping? known
    refine ⟨ofKind, ?_⟩
    intro erased
    have unknown : dialect.mappings.find valueType = none :=
      (mapping?_eq_none_iff dialect valueType.kind).2 (ofKind.symm.trans erased)
    rw [unknown] at known
    cases known
  canonical := by cases dialect <;> decide

end Dialect

namespace Sql
namespace Node

/-- The mapping that a node could take over from its operands as they are. -/
def available : Node → Option TypeMapping
  | .apply header op operand => inheritedFromOperand op header.valueType operand
  | .combine header op left right =>
      inheritedFromPair op header.valueType left right
  | .leaf _ _ | .call _ _ _ => none

/-- A node has a mapping of its own kind. Only the null constant may have
another, and only a value of the erased type none; then inference has none for
it either. -/
structure Fits (node : Node) : Prop where
  unmapped : node.mapping = none →
    node.valueType.kind = .object ∧ node.isCondition = false ∧
      node.available = none
  mapped : ∀ mapping, node.mapping = some mapping →
    mapping.kind ≠ .object ∧
      (node.isNullConstant = true ∨ mapping.kind = node.valueType.kind)
  settled : ¬ node.HasAdopter

/-- Every part of an expression fits its mapping. -/
def WellMapped (node : Node) : Prop := node.Everywhere Fits

/-- A node without its mapping that gets one by inference, or a well-mapped
one. -/
def IsMappable (node : Node) : Prop :=
  node.WellMapped ∨
    ∃ header atom, node = .leaf header atom ∧
      header.mapping = none ∧ header.isCondition = false

theorem fits_of_mapped
    {node : Node}
    {mapping : TypeMapping}
    (known : node.mapping = some mapping)
    (notErased : mapping.kind ≠ .object)
    (ofKind : node.isNullConstant = true ∨ mapping.kind = node.valueType.kind) :
    node.Fits where
  unmapped absent := by
    rw [known] at absent
    cases absent
  mapped other otherKnown := by
    rw [known] at otherKnown
    cases otherKnown
    exact ⟨notErased, ofKind⟩
  settled := not_hasAdopter_of_mapped (by simp [known])

/-- A well-mapped expression may get another mapping of its kind. -/
theorem wellMapped_withMapping
    {node : Node}
    {mapping : TypeMapping}
    (wellMapped : node.WellMapped)
    (notErased : mapping.kind ≠ .object)
    (ofKind : mapping.kind = node.valueType.kind) :
    (node.withMapping mapping).WellMapped := by
  refine everywhere_withHeader wellMapped ?_
  exact fits_of_mapped (node.mapping_withMapping mapping) notErased
    (.inr (by rw [← withMapping, valueType_withMapping, ofKind]))

/-- The declared nullability does not matter. -/
theorem wellMapped_toNonNullable {node : Node} (wellMapped : node.WellMapped) :
    node.toNonNullable.WellMapped := by
  have fits : node.Fits := wellMapped.root
  refine everywhere_withHeader wellMapped ⟨?_, ?_, ?_⟩
  · cases node <;> exact fits.unmapped
  · rw [isNullConstant_withHeader]
    cases node <;> exact fits.mapped
  · cases node <;> exact fits.settled

theorem isMappable_toNonNullable {node : Node} (mappable : node.IsMappable) :
    node.toNonNullable.IsMappable := by
  rcases mappable with wellMapped | ⟨header, atom, rfl, unmapped, value⟩
  · exact .inl (wellMapped_toNonNullable wellMapped)
  · exact .inr ⟨_, atom, rfl, unmapped, value⟩

theorem kind_of_inheritedFromOperand
    {op : UnaryOp}
    {valueType : ValueType}
    {operand : Node}
    {mapping : TypeMapping}
    (inherits : inheritedFromOperand op valueType operand = some mapping) :
    operand.mapping = some mapping ∧ mapping.kind = valueType.kind := by
  cases op with
  | negate =>
      simpa [inheritedFromOperand, Option.filter_eq_some_iff] using inherits
  | cast => cases inherits
  | nullTest negated => cases inherits
  | not => cases inherits

/-- Apart from concatenations, a binary node inherits a mapping of its own
kind. -/
theorem kind_of_inheritedFromPair
    {op : BinaryOp}
    {valueType : ValueType}
    {left right : Node}
    {mapping : TypeMapping}
    (notConcat : op ≠ .concat)
    (inherits : inheritedFromPair op valueType left right = some mapping) :
    (left.mapping = some mapping ∨ right.mapping = some mapping) ∧
      mapping.kind = valueType.kind := by
  have ofKind :
      firstMapping? (fun mapping => mapping.kind == valueType.kind) left right =
        some mapping := by
    cases op <;> first | exact inherits | exact absurd rfl notConcat
  simp only [firstMapping?, Option.or_eq_some_iff, Option.filter_eq_some_iff,
    beq_iff_eq] at ofKind
  rcases ofKind with ⟨known, kindKnown⟩ | ⟨_, known, kindKnown⟩
  · exact ⟨.inl known, kindKnown⟩
  · exact ⟨.inr known, kindKnown⟩

/-- What an inferred node could take over from its operands is what it
inherited. -/
theorem available_infer
    {source : MappingSource}
    {node : Node}
    (unmapped : node.mapping = none) :
    (node.infer source).available = node.inherited source := by
  cases node with
  | leaf header atom => rw [infer_leaf]; rfl
  | apply header op operand =>
      rw [infer_apply source unmapped]
      simp [available, inherited]
  | combine header op left right =>
      rw [infer_combine source unmapped]
      simp [available, inherited]
  | call header name arguments => rw [infer_call source unmapped]; rfl

/-- Of two operands that were inferred side by side and are well mapped, none
could take over a mapping: without one it is erased, and then it is either no
null constant, or its sibling has none. -/
theorem not_canAdopt_of_wellMapped
    (source : MappingSource)
    {node sibling : Node}
    (wellMapped : (node.inferBeside source sibling).WellMapped)
    (siblingWellMapped : (sibling.inferBeside source node).WellMapped) :
    ¬ (node.inferBeside source sibling).CanAdopt
      (sibling.inferBeside source node) := by
  rintro ⟨unmapped, adopts⟩
  obtain ⟨mapping, adopted⟩ := Option.isSome_iff_exists.1 adopts
  obtain ⟨known, isNull | ofKind⟩ :=
    (adopted?_eq_some_iff _ _ mapping).1 adopted
  · rw [mapping_sibling_of_unmapped_null source (by simpa using isNull)
      unmapped] at known
    cases known
  · obtain ⟨erased, _, _⟩ := wellMapped.root.unmapped unmapped
    exact (siblingWellMapped.root.mapped mapping known).1 (ofKind.trans erased)

/-- What is no condition need not be a truth value. -/
theorem truth_of_value
    {header : Header}
    (value : header.isCondition = false)
    (condition : header.isCondition = true) :
    header.valueType.kind = .boolean := by
  rw [value] at condition
  cases condition

section

variable {source : MappingSource} (covers : source.Covers)

include covers

/-- Inference does not change well-mapped expressions. -/
theorem infer_eq_self_of_wellMapped
    (node : Node)
    (wellMapped : node.WellMapped) :
    node.infer source = node := by
  have kept : ∀ root : Node, root.Fits → root.mapping = none →
      root.header.resolve source root.available = root.header := by
    intro root fits unmapped
    obtain ⟨erased, value, nothing⟩ := fits.unmapped unmapped
    refine Header.resolve_eq_self_of_unmapped source ?_
    exact (Header.mapping_resolve_eq_none_iff source _ _).2
      ⟨unmapped, value, nothing, covers.find_erased erased⟩
  induction node using inductUnmapped with
  | mapped node mapped => exact infer_of_mapped source mapped
  | leaf header atom unmapped =>
      rw [infer_leaf]
      exact congrArg (Node.leaf · atom) (kept _ wellMapped.root unmapped)
  | apply header op operand unmapped inductionHypothesis =>
      obtain ⟨fits, operandWellMapped⟩ := (everywhere_apply _ _ _).1 wellMapped
      rw [infer_apply source unmapped, inductionHypothesis operandWellMapped]
      exact congrArg (Node.apply · op operand) (kept _ fits unmapped)
  | combine header op left right unmapped leftHypothesis rightHypothesis =>
      obtain ⟨fits, leftWellMapped, rightWellMapped⟩ :=
        (everywhere_combine _ _ _ _).1 wellMapped
      have leftKept := leftHypothesis leftWellMapped
      have rightKept := rightHypothesis rightWellMapped
      obtain ⟨leftCannot, rightCannot⟩ :
          ¬ left.CanAdopt right ∧ ¬ right.CanAdopt left := by
        constructor
        · exact fun adopts => fits.settled ⟨unmapped, .inl adopts⟩
        · exact fun adopts => fits.settled ⟨unmapped, .inr adopts⟩
      rw [infer_combine source unmapped,
        inferBeside_eq_self source leftCannot leftKept
          (by rw [KeepsMapping, rightKept]),
        inferBeside_eq_self source rightCannot rightKept
          (by rw [KeepsMapping, leftKept])]
      exact congrArg (Node.combine · op left right) (kept _ fits unmapped)
  | call header name arguments unmapped inductionHypothesis =>
      obtain ⟨fits, argumentsWellMapped⟩ := (everywhere_call _ _ _).1 wellMapped
      have argumentsKept : arguments.map (infer source) = arguments := by
        refine (List.map_congr_left ?_).trans arguments.map_id
        intro argument member
        exact inductionHypothesis argument member
          (argumentsWellMapped argument member)
      rw [infer_call source unmapped, argumentsKept]
      exact congrArg (Node.call · name arguments) (kept _ fits unmapped)

/-- What inference makes of a node without a mapping fits, if a condition is a
truth value, all that the node inherits is of its kind, and its operands do not
adopt. -/
theorem fits_infer
    {node : Node}
    (unmapped : node.mapping = none)
    (truth : node.isCondition = true → node.valueType.kind = .boolean)
    (inheritsOfKind : ∀ mapping, node.inherited source = some mapping →
      mapping.kind = node.valueType.kind ∧ mapping.kind ≠ .object)
    (settled : ¬ (node.infer source).HasAdopter) :
    (node.infer source).Fits where
  unmapped known := by
    have resolved :
        (node.header.resolve source (node.inherited source)).mapping =
          none := by
      rw [← header_infer]
      exact known
    obtain ⟨_, value, nothing, notFound⟩ :=
      (Header.mapping_resolve_eq_none_iff source _ _).1 resolved
    refine ⟨?_, by rw [isCondition_infer]; exact value, ?_⟩
    · rw [valueType_infer]
      exact covers.total _ notFound
    · rw [available_infer unmapped]
      exact nothing
  mapped mapping known := by
    have resolved :
        (node.header.resolve source (node.inherited source)).mapping =
          some mapping := by
      rw [← header_infer]
      exact known
    have ofKind : mapping.kind = node.valueType.kind ∧
        mapping.kind ≠ .object := by
      cases condition : node.isCondition with
      | true =>
          rw [Header.mapping_resolve_of_isCondition source _ unmapped
            condition] at resolved
          obtain rfl := Option.some.inj resolved
          refine ⟨covers.canonical.trans (truth condition).symm, ?_⟩
          rw [covers.canonical]
          decide
      | false =>
          rw [Header.mapping_resolve_of_value source _ unmapped condition,
            Option.or_eq_some_iff] at resolved
          rcases resolved with inherits | ⟨_, found⟩
          · exact inheritsOfKind mapping inherits
          · exact covers.ofKind _ mapping found
    exact ⟨ofKind.2, .inr (by rw [valueType_infer]; exact ofKind.1)⟩
  settled := settled

/-- Inference makes a leaf that is no condition well mapped. -/
theorem wellMapped_infer_leaf
    {header : Header}
    {atom : Atom}
    (unmapped : header.mapping = none)
    (value : header.isCondition = false) :
    ((Node.leaf header atom).infer source).WellMapped := by
  have fits : ((Node.leaf header atom).infer source).Fits := by
    refine fits_infer covers unmapped (truth_of_value value) ?_ ?_
    · intro _ inherits
      cases inherits
    · rw [infer_leaf]
      exact id
  rw [infer_leaf] at fits ⊢
  exact (everywhere_leaf _ _).2 fits

/-- Inference makes every mappable expression well mapped. -/
theorem wellMapped_infer {node : Node} (mappable : node.IsMappable) :
    (node.infer source).WellMapped := by
  rcases mappable with wellMapped | ⟨header, atom, rfl, unmapped, value⟩
  · rw [infer_eq_self_of_wellMapped covers node wellMapped]
    exact wellMapped
  · exact wellMapped_infer_leaf covers unmapped value

/-- Inference makes the operands of a binary node well mapped, each beside the
other. -/
theorem wellMapped_inferBeside
    {node sibling : Node}
    (mappable : node.IsMappable)
    (siblingMappable : sibling.IsMappable) :
    (node.inferBeside source sibling).WellMapped := by
  rcases inferBeside_cases source node sibling with
    alone | ⟨mapping, unmapped, accepted, adopted, _, siblingKnown⟩
  · rw [alone]
    exact wellMapped_infer covers mappable
  · obtain ⟨notErased, _⟩ :=
      (wellMapped_infer covers siblingMappable).root.mapped mapping siblingKnown
    have fits : (node.withMapping mapping).Fits :=
      fits_of_mapped (node.mapping_withMapping mapping) notErased
        (by simpa using accepted)
    -- only a leaf can take over a mapping: other nodes without one are erased
    rw [adopted]
    rcases mappable with wellMapped | ⟨header, atom, rfl, _, _⟩
    · exact everywhere_withHeader wellMapped fits
    · exact (everywhere_leaf _ _).2 fits

theorem wellMapped_infer_apply
    {header : Header}
    {op : UnaryOp}
    {operand : Node}
    (unmapped : header.mapping = none)
    (truth : header.isCondition = true → header.valueType.kind = .boolean)
    (operandWellMapped : (operand.infer source).WellMapped) :
    ((Node.apply header op operand).infer source).WellMapped := by
  have fits : ((Node.apply header op operand).infer source).Fits := by
    refine fits_infer covers unmapped truth ?_ ?_
    · intro mapping inherits
      have ofKind := kind_of_inheritedFromOperand inherits
      exact ⟨ofKind.2, (operandWellMapped.root.mapped mapping ofKind.1).1⟩
    · rw [infer_apply source unmapped]
      exact id
  rw [infer_apply source unmapped] at fits ⊢
  exact (everywhere_apply _ _ _).2 ⟨fits, operandWellMapped⟩

theorem wellMapped_infer_combine
    {header : Header}
    {op : BinaryOp}
    {left right : Node}
    (unmapped : header.mapping = none)
    (notConcat : op ≠ .concat)
    (truth : header.isCondition = true → header.valueType.kind = .boolean)
    (leftMappable : left.IsMappable)
    (rightMappable : right.IsMappable) :
    ((Node.combine header op left right).infer source).WellMapped := by
  have leftWellMapped :=
    wellMapped_inferBeside covers leftMappable rightMappable
  have rightWellMapped :=
    wellMapped_inferBeside covers rightMappable leftMappable
  have fits : ((Node.combine header op left right).infer source).Fits := by
    refine fits_infer covers unmapped truth ?_ ?_
    · intro mapping inherits
      obtain ⟨known, ofKind⟩ := kind_of_inheritedFromPair notConcat inherits
      refine ⟨ofKind, ?_⟩
      rcases known with known | known
      · exact (leftWellMapped.root.mapped mapping known).1
      · exact (rightWellMapped.root.mapped mapping known).1
    · rw [infer_combine source unmapped]
      rintro ⟨_, adopts | adopts⟩
      · exact not_canAdopt_of_wellMapped source leftWellMapped rightWellMapped
          adopts
      · exact not_canAdopt_of_wellMapped source rightWellMapped leftWellMapped
          adopts
  rw [infer_combine source unmapped] at fits ⊢
  exact (everywhere_combine _ _ _ _).2 ⟨fits, leftWellMapped, rightWellMapped⟩

theorem wellMapped_infer_call
    {header : Header}
    {name : String}
    {arguments : List Node}
    (unmapped : header.mapping = none)
    (value : header.isCondition = false)
    (argumentsWellMapped : ∀ argument, argument ∈ arguments →
      (argument.infer source).WellMapped) :
    ((Node.call header name arguments).infer source).WellMapped := by
  have fits : ((Node.call header name arguments).infer source).Fits := by
    refine fits_infer covers unmapped (truth_of_value value) ?_ ?_
    · intro _ inherits
      cases inherits
    · rw [infer_call source unmapped]
      exact id
  rw [infer_call source unmapped] at fits ⊢
  refine (everywhere_call _ _ _).2 ⟨fits, ?_⟩
  simpa [WellMapped] using argumentsWellMapped

end

/-- A well-mapped expression stays so when it is made a condition. -/
theorem wellMapped_toCondition
    {canonical : TypeMapping}
    {node : Node}
    (canonicalKind : canonical.kind = .boolean)
    (wellMapped : node.WellMapped) :
    (node.toCondition canonical).WellMapped := by
  unfold toCondition
  split
  · exact wellMapped
  · split
    · next mapping known =>
        split
        · next isTruth =>
            have truthFits : (truth mapping).Fits :=
              fits_of_mapped (mapping_withMapping _ mapping)
                (by rw [isTruth]; decide) (.inr isTruth)
            have testFits :
                ((binary .equal node (truth mapping) .boolean).withMapping
                  canonical).Fits :=
              fits_of_mapped (mapping_withMapping _ canonical)
                (by rw [canonicalKind]; decide) (.inr canonicalKind)
            exact (everywhere_combine _ _ _ _).2
              ⟨testFits, wellMapped, (everywhere_leaf _ _).2 truthFits⟩
        · exact wellMapped
    · exact wellMapped

end Node
end Sql
end QueryLowering
