import QueryLowering.Lowering.Operators
import QueryLowering.Proofs.Sql.Inference
import QueryLowering.TypeMapping.Dialect

/-!
# Expressions without the texts of their mappings

A type mapping names a store type and writes truth values in its own way.
Blanking takes these texts away and leaves the kind and the equality of the
mapping.

Whatever is built over SQL expressions decides by the presence and the kind of
mappings alone, so that blanking commutes with it. The blanked mappings of all
dialects are the same.
-/

namespace QueryLowering

/-- The mapping without its store type and its literals for truth values. -/
def TypeMapping.blank (mapping : TypeMapping) : TypeMapping :=
  { mapping with storeType := "", trueLiteral := "", falseLiteral := "" }

@[simp] theorem TypeMapping.kind_blank (mapping : TypeMapping) :
    mapping.blank.kind = mapping.kind := rfl

@[simp] theorem TypeMapping.isTextual_blank (mapping : TypeMapping) :
    mapping.blank.isTextual = mapping.isTextual := rfl

/-- The source of the blanked mappings. -/
def MappingSource.blank (source : MappingSource) : MappingSource where
  find valueType := (source.find valueType).map TypeMapping.blank
  canonicalBoolean := source.canonicalBoolean.blank

/-- Dialects differ in the texts of their mappings alone. -/
theorem Dialect.blank_mappings_eq (first second : Dialect) :
    first.mappings.blank = second.mappings.blank := by
  have sameKind : ∀ kind, (first.mapping? kind).map TypeMapping.blank =
      (second.mapping? kind).map TypeMapping.blank := by
    intro kind
    cases kind <;> cases first <;> cases second <;> rfl
  have sameTruth : first.booleanMapping.blank =
      second.booleanMapping.blank := by
    cases first <;> cases second <;> rfl
  rw [MappingSource.blank, MappingSource.blank, MappingSource.mk.injEq]
  exact ⟨funext fun valueType => sameKind valueType.kind, sameTruth⟩

/-- Before they are blanked, they do differ. -/
example :
    Dialect.sqlServer.mapping? .boolean ≠ Dialect.ansi.mapping? .boolean := by
  decide

namespace Sql

/-- The header with its mapping blanked. -/
def Header.blank (header : Header) : Header :=
  { header with mapping := header.mapping.map TypeMapping.blank }

/-- A header is resolved by the presence of mappings. -/
theorem Header.blank_resolve
    (header : Header)
    (source : MappingSource)
    (inherited : Option TypeMapping) :
    (header.resolve source inherited).blank =
      header.blank.resolve source.blank (inherited.map TypeMapping.blank) := by
  obtain ⟨valueType, mapping, isCondition⟩ := header
  cases mapping with
  | some mapping => rfl
  | none =>
      cases isCondition with
      | true => rfl
      | false => simp [resolve, blank, MappingSource.blank, Option.map_or]

namespace Node

mutual

/-- The expression with all mappings blanked. -/
def blank : Node → Node
  | .leaf header atom => .leaf header.blank atom
  | .apply header op operand => .apply header.blank op operand.blank
  | .combine header op left right =>
      .combine header.blank op left.blank right.blank
  | .call header name arguments => .call header.blank name (blankAll arguments)

/-- Several expressions with all mappings blanked. -/
def blankAll : List Node → List Node
  | [] => []
  | node :: rest => node.blank :: blankAll rest

end

@[simp] theorem blank_leaf (header : Header) (atom : Atom) :
    (Node.leaf header atom).blank = .leaf header.blank atom := by
  rw [blank]

@[simp] theorem blank_apply (header : Header) (op : UnaryOp) (operand : Node) :
    (Node.apply header op operand).blank =
      .apply header.blank op operand.blank := by
  rw [blank]

@[simp] theorem blank_combine
    (header : Header)
    (op : BinaryOp)
    (left right : Node) :
    (Node.combine header op left right).blank =
      .combine header.blank op left.blank right.blank := by
  rw [blank]

@[simp] theorem blank_call
    (header : Header)
    (name : String)
    (arguments : List Node) :
    (Node.call header name arguments).blank =
      .call header.blank name (arguments.map blank) := by
  rw [blank]
  congr 1
  induction arguments with
  | nil => rfl
  | cons argument rest inductionHypothesis =>
      simp [blankAll, inductionHypothesis]

@[simp] theorem header_blank (node : Node) :
    node.blank.header = node.header.blank := by
  cases node <;> simp

@[simp] theorem valueType_blank (node : Node) :
    node.blank.valueType = node.valueType := by
  simp [Node.valueType, Header.blank]

@[simp] theorem isCondition_blank (node : Node) :
    node.blank.isCondition = node.isCondition := by
  simp [Node.isCondition, Header.blank]

@[simp] theorem mapping_blank (node : Node) :
    node.blank.mapping = node.mapping.map TypeMapping.blank := by
  simp [Node.mapping, Header.blank]

@[simp] theorem blank_withHeader (node : Node) (header : Header) :
    (node.withHeader header).blank = node.blank.withHeader header.blank := by
  cases node <;> simp [withHeader]

@[simp] theorem blank_withMapping (node : Node) (mapping : TypeMapping) :
    (node.withMapping mapping).blank =
      node.blank.withMapping mapping.blank := by
  simp [withMapping, Header.blank]

@[simp] theorem blank_toNonNullable (node : Node) :
    node.toNonNullable.blank = node.blank.toNonNullable := by
  simp [toNonNullable, Header.blank]

@[simp] theorem blank_fragment (sql : String) (valueType : ValueType) :
    (fragment sql valueType).blank = fragment sql valueType := by
  simp [fragment, Header.blank]

@[simp] theorem blank_constant (value : Literal) (valueType : ValueType) :
    (constant value valueType).blank = constant value valueType := by
  simp [constant, Header.blank]

@[simp] theorem blank_parameter (name : String) (valueType : ValueType) :
    (parameter name valueType).blank = parameter name valueType := by
  simp [parameter, Header.blank]

@[simp] theorem blank_column
    (used : ColumnRef)
    (valueType : ValueType)
    (mapping : Option TypeMapping) :
    (column used valueType mapping).blank =
      column used valueType (mapping.map TypeMapping.blank) := by
  simp [column, Header.blank]

@[simp] theorem blank_cast (operand : Node) (target : ValueType) :
    (operand.cast target).blank = operand.blank.cast target := by
  simp [cast, Header.blank]

@[simp] theorem blank_nullTest (operand : Node) (negated : Bool) :
    (operand.nullTest negated).blank = operand.blank.nullTest negated := by
  simp [nullTest, Header.blank]

@[simp] theorem blank_not (operand : Node) (valueType : ValueType) :
    (operand.not valueType).blank = operand.blank.not valueType := by
  simp [Node.not, Header.blank]

@[simp] theorem blank_negate (operand : Node) (valueType : ValueType) :
    (operand.negate valueType).blank = operand.blank.negate valueType := by
  simp [negate, Header.blank]

@[simp] theorem blank_binary
    (op : BinaryOp)
    (left right : Node)
    (valueType : ValueType) :
    (binary op left right valueType).blank =
      binary op left.blank right.blank valueType := by
  simp [binary, Header.blank]

@[simp] theorem blank_function
    (name : String)
    (arguments : List Node)
    (valueType : ValueType) :
    (function name arguments valueType).blank =
      function name (arguments.map blank) valueType := by
  simp [function, Header.blank]

@[simp] theorem isNullConstant_blank (node : Node) :
    node.blank.isNullConstant = node.isNullConstant := by
  cases node with
  | leaf header atom =>
      rw [blank_leaf]; exact isNullConstant_withHeader (.leaf header atom) _
  | _ => simp [isNullConstant]

@[simp] theorem literal?_blank (node : Node) :
    node.blank.literal? = node.literal? := by
  cases node with
  | leaf header atom => cases atom <;> simp [literal?]
  | _ => simp [literal?]

@[simp] theorem isNullLiteral_blank (node : Node) :
    node.blank.isNullLiteral = node.isNullLiteral := by
  induction node using induct with
  | leaf header atom =>
      cases atom with
      | constant value => cases value <;> simp [isNullLiteral]
      | _ => simp [isNullLiteral]
  | apply header op operand inductionHypothesis =>
      cases op <;> simp [isNullLiteral, inductionHypothesis]
  | combine header op left right _ _ => simp [isNullLiteral]
  | call header name arguments _ => simp [isNullLiteral]

/-- A sibling's mapping is taken over by its presence and its kind. -/
theorem adopted?_blank (node sibling : Node) :
    node.blank.adopted? sibling.blank =
      (node.adopted? sibling).map TypeMapping.blank := by
  simp [adopted?, Option.filter_map, Function.comp_def]

theorem firstMapping?_blank
    {accepts : TypeMapping → Bool}
    (readsNoText : ∀ mapping, accepts mapping.blank = accepts mapping)
    (left right : Node) :
    firstMapping? accepts left.blank right.blank =
      (firstMapping? accepts left right).map TypeMapping.blank := by
  simp [firstMapping?, Option.filter_map, Function.comp_def, readsNoText,
    Option.map_or]

theorem inheritedFromPair_blank
    (op : BinaryOp)
    (valueType : ValueType)
    (left right : Node) :
    inheritedFromPair op valueType left.blank right.blank =
      (inheritedFromPair op valueType left right).map TypeMapping.blank := by
  unfold inheritedFromPair
  split
  · exact firstMapping?_blank TypeMapping.isTextual_blank left right
  · exact firstMapping?_blank (fun _ => rfl) left right

theorem inheritedFromOperand_blank
    (op : UnaryOp)
    (valueType : ValueType)
    (operand : Node) :
    inheritedFromOperand op valueType operand.blank =
      (inheritedFromOperand op valueType operand).map TypeMapping.blank := by
  cases op <;> simp [inheritedFromOperand, Option.filter_map, Function.comp_def]

theorem blank_fillNull (node sibling : Node) :
    (node.fillNull sibling).blank = node.blank.fillNull sibling.blank := by
  unfold fillNull
  rw [mapping_blank, mapping_blank, isNullConstant_blank]
  cases node.mapping with
  | some mapping => rfl
  | none =>
      cases sibling.mapping with
      | none => rfl
      | some mapping => cases node.isNullConstant <;> simp

/-- An operand is inferred beside its sibling by the presence and the kind of
mappings, if both are so when inferred alone. -/
theorem blank_inferBeside
    {source : MappingSource}
    {node sibling : Node}
    (inferred : (node.infer source).blank = node.blank.infer source.blank)
    (siblingInferred : (sibling.infer source).blank =
      sibling.blank.infer source.blank) :
    (node.inferBeside source sibling).blank =
      node.blank.inferBeside source.blank sibling.blank := by
  have alone : ∀ operand other : Node,
      (operand.infer source).blank = operand.blank.infer source.blank →
      (operand.inferAlone source other).blank =
        operand.blank.inferAlone source.blank other.blank := by
    intro operand other operandInferred
    unfold inferAlone
    rw [mapping_blank, adopted?_blank]
    cases operand.mapping with
    | some mapping => exact operandInferred
    | none =>
        cases operand.adopted? other with
        | none => exact operandInferred
        | some mapping => simp
  rw [inferBeside, blank_fillNull, alone node sibling inferred,
    alone sibling node siblingInferred, inferBeside]

/-- Inference reads no texts of mappings. -/
@[simp] theorem blank_infer (source : MappingSource) (node : Node) :
    (node.infer source).blank = node.blank.infer source.blank := by
  have stillUnmapped : ∀ root : Node, root.mapping = none →
      root.blank.mapping = none := by
    intro root unmapped
    simp [unmapped]
  induction node using inductUnmapped with
  | mapped node mapped =>
      rw [infer_of_mapped source mapped,
        infer_of_mapped source.blank (by simpa using mapped)]
  | leaf header atom unmapped =>
      rw [infer_leaf, blank_leaf, blank_leaf, infer_leaf, Header.blank_resolve,
        Option.map_none]
  | apply header op operand unmapped inductionHypothesis =>
      have blankUnmapped := stillUnmapped _ unmapped
      rw [blank_apply] at blankUnmapped ⊢
      rw [infer_apply source unmapped, infer_apply source.blank blankUnmapped,
        blank_apply, Header.blank_resolve, ← inheritedFromOperand_blank,
        inductionHypothesis]
      rfl
  | combine header op left right unmapped leftHypothesis rightHypothesis =>
      have blankUnmapped := stillUnmapped _ unmapped
      rw [blank_combine] at blankUnmapped ⊢
      rw [infer_combine source unmapped,
        infer_combine source.blank blankUnmapped, blank_combine,
        Header.blank_resolve, ← inheritedFromPair_blank,
        blank_inferBeside leftHypothesis rightHypothesis,
        blank_inferBeside rightHypothesis leftHypothesis]
      rfl
  | call header name arguments unmapped inductionHypothesis =>
      have blankUnmapped := stillUnmapped _ unmapped
      rw [blank_call] at blankUnmapped ⊢
      rw [infer_call source unmapped, infer_call source.blank blankUnmapped,
        blank_call, Header.blank_resolve, Option.map_none, List.map_map,
        List.map_map]
      exact congrArg _ (List.map_congr_left inductionHypothesis)

/-- A value is tested for truth by the presence and the kind of its mapping. -/
@[simp] theorem blank_toCondition (canonical : TypeMapping) (node : Node) :
    (node.toCondition canonical).blank =
      node.blank.toCondition canonical.blank := by
  unfold toCondition
  rw [isCondition_blank, mapping_blank]
  split
  · rfl
  · cases node.mapping with
    | none => rfl
    | some mapping =>
        by_cases isTruth : mapping.kind = .boolean
        · simp [isTruth, truth]
        · simp [isTruth]

end Node
end Sql
end QueryLowering
