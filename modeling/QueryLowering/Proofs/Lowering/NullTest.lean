import QueryLowering.Proofs.Lowering.Lowers
import QueryLowering.Proofs.Lowering.Step
import QueryLowering.Proofs.Query.Height
import QueryLowering.Proofs.Sql.Inference

/-!
# Comparisons with null

A test for equality between null and another expression becomes a null test of
the other expression. The null literal may stand on either side, under any
number of casts and one conversion to the erased type around them: a cast of
null is a null literal again, and inference does not change this. Null binds no
column, so the columns are those of the other expression. If both sides are
null, or neither is, the comparison is kept.
-/

namespace QueryLowering

namespace Sql.BinaryOp

/-- The test for equality, or for its opposite if negated. -/
def equality : (negated : Bool) → BinaryOp
  | false => .equal
  | true => .notEqual

@[simp] theorem isCondition_equality (negated : Bool) :
    (equality negated).isCondition = true := by
  cases negated <;> rfl

end Sql.BinaryOp

namespace Query.BinaryOp

/-- The test for equality, or for its opposite if negated. -/
def equality : (negated : Bool) → BinaryOp
  | false => .equal
  | true => .notEqual

@[simp] theorem isEquality_equality (negated : Bool) :
    (equality negated).isEquality = true := by
  cases negated <;> rfl

@[simp] theorem isLogical_equality (negated : Bool) :
    (equality negated).isLogical = false := by
  cases negated <;> rfl

@[simp] theorem equality_beq_notEqual (negated : Bool) :
    (equality negated == .notEqual) = negated := by
  cases negated <;> rfl

@[simp] theorem toSql_equality (negated : Bool) :
    (equality negated).toSql = .equality negated := by
  cases negated <;> rfl

end Query.BinaryOp

namespace Query

/-- The null literal of any type under casts, that is, under conversions to
other types than the erased one. -/
inductive CastsNull : Query → Prop
  | constant (valueType : ValueType) : CastsNull (.constant .null valueType)
  | cast {operand : Query} {valueType : ValueType} :
      CastsNull operand →
      valueType.isErased = false →
      CastsNull (.unary .convert operand valueType)

/-- The null literal under casts, and maybe one conversion to the erased type
around them. -/
inductive DenotesNull : Query → Prop
  | casts {query : Query} : CastsNull query → DenotesNull query
  | erasure {operand : Query} {valueType : ValueType} :
      CastsNull operand →
      valueType.isErased = true →
      DenotesNull (.unary .convert operand valueType)

end Query

namespace Sql
namespace Node

/-- Inference leaves the null literal and its casts what they are. -/
@[simp] theorem isNullLiteral_infer (source : MappingSource) (node : Node) :
    (node.infer source).isNullLiteral = node.isNullLiteral := by
  induction node using inductUnmapped with
  | mapped node mapped => rw [infer_of_mapped source mapped]
  | leaf header atom unmapped =>
      rw [infer_leaf]
      cases atom with
      | constant value => cases value <;> rfl
      | _ => rfl
  | apply header op operand unmapped inductionHypothesis =>
      rw [infer_apply source unmapped]
      cases op with
      | cast => exact inductionHypothesis
      | _ => rfl
  | combine header op left right unmapped _ _ =>
      rw [infer_combine source unmapped]; rfl
  | call header name arguments unmapped _ =>
      rw [infer_call source unmapped]; rfl

theorem isNullLiteral_cast (node : Node) (valueType : ValueType) :
    (node.cast valueType).isNullLiteral = node.isNullLiteral := rfl

/-- A null test is inferred to be a condition under the canonical mapping. -/
theorem infer_nullTest
    (source : MappingSource)
    (operand : Node)
    (negated : Bool) :
    (nullTest operand negated).infer source =
      .apply ⟨.boolean, some source.canonicalBoolean, true⟩ (.nullTest negated)
        (operand.infer source) := by
  rw [nullTest, infer_apply source rfl]
  simp [Header.resolve]

/-- A test for equality is inferred to be a condition under the canonical
mapping, with its operands inferred side by side. -/
theorem infer_equality
    (source : MappingSource)
    (negated : Bool)
    (left right : Node)
    (valueType : ValueType) :
    (binary (.equality negated) left right valueType).infer source =
      .combine ⟨valueType, some source.canonicalBoolean, true⟩
        (.equality negated) (left.inferBeside source right)
        (right.inferBeside source left) := by
  rw [binary, infer_combine source rfl]
  simp [Header.resolve]

end Node
end Sql

namespace Lowering

variable {source : MappingSource}

/-- A test for equality between null and another expression is a null test of
the other. -/
theorem combination_of_one_null
    {operand left right : Sql.Node}
    (negated : Bool)
    (valueType : ValueType)
    (notNull : operand.isNullLiteral = false)
    (sides : left = operand ∧ right.isNullLiteral = true ∨
      left.isNullLiteral = true ∧ right = operand) :
    combination source (.equality negated) valueType left right =
      (Sql.Node.nullTest operand negated).infer source := by
  rcases sides with ⟨rfl, isNull⟩ | ⟨isNull, rfl⟩
  · simp [combination, notNull, isNull]
  · simp [combination, notNull, isNull]

/-- A test for equality between two null literals, or between two expressions
that are none, is kept. -/
theorem combination_of_same_null
    {left right : Sql.Node}
    (negated : Bool)
    (valueType : ValueType)
    (same : left.isNullLiteral = right.isNullLiteral) :
    combination source (.equality negated) valueType left right =
      (Sql.Node.binary (.equality negated) left right valueType).infer
        source := by
  simp [combination, same]

/-- A test for equality is the combination of its SQL operands. -/
theorem binary_equality
    {left right : Lowered}
    {leftNode rightNode : Sql.Node}
    (negated : Bool)
    (method : Option Method)
    (valueType : ValueType)
    (leftKnown : left.operand? = some leftNode)
    (rightKnown : right.operand? = some rightNode) :
    binary source (.equality negated) method valueType left right =
      .ok (.sql (combination source (.equality negated) valueType leftNode
        rightNode)) := by
  have noText : joinsTexts (.equality negated) method = false := by
    cases negated <;> rfl
  simp [binary, leftKnown, rightKnown, noText]

end Lowering

namespace Lowerer

variable (lowerer : Lowerer) (select : Select)

/-- A cast null lowers to a null literal, and binds nothing. -/
theorem visit_castsNull {query : Query} (castsNull : query.CastsNull) :
    ∃ node, lowerer.visit select query = ⟨[], .ok (.sql node)⟩ ∧
      node.isNullLiteral = true := by
  induction castsNull with
  | constant valueType => exact ⟨_, rfl, rfl⟩
  | @cast operand valueType _ notErased inductionHypothesis =>
      obtain ⟨node, visited, isNull⟩ := inductionHypothesis
      refine ⟨(node.cast valueType).infer lowerer.mappings, ?_, ?_⟩
      · rw [visit, visited, Attempt.bind_of_ok _ rfl]
        simp [Lowering.unary, Lowered.isComplete, notErased]
      · rw [Sql.Node.isNullLiteral_infer, Sql.Node.isNullLiteral_cast, isNull]

/-- What denotes null gives a null literal as an operand, and binds nothing. -/
theorem visit_denotesNull {query : Query} (denotesNull : query.DenotesNull) :
    ∃ value node, lowerer.visit select query = ⟨[], .ok value⟩ ∧
      value.operand? = some node ∧ node.isNullLiteral = true := by
  cases denotesNull with
  | casts castsNull =>
      obtain ⟨node, visited, isNull⟩ := visit_castsNull lowerer select castsNull
      exact ⟨_, node, visited, rfl, isNull⟩
  | @erasure operand valueType castsNull erased =>
      obtain ⟨node, visited, isNull⟩ := visit_castsNull lowerer select castsNull
      refine ⟨.convert (.sql node) valueType, node, ?_, ?_, isNull⟩
      · rw [visit, visited, Attempt.bind_of_ok _ rfl]
        simp [Lowering.unary, Lowered.isComplete, erased]
      · simp [Lowered.operand?, erased]

/-- A condition with a mapping is finished. -/
theorem finish_of_mapped_condition
    {node : Sql.Node}
    (requireCondition : Bool)
    (mapped : node.mapping.isSome = true)
    (condition : node.isCondition = true) :
    lowerer.finish requireCondition (.sql node) = .sql node := by
  rw [finish_sql, Sql.Node.infer_of_mapped lowerer.mappings mapped]
  simp [Sql.Node.toCondition, condition]

/-- A test for equality over operands that give SQL is finished as it is. -/
theorem lower_equality
    {left right : Query}
    {leftValue rightValue : Lowered}
    {leftNode rightNode : Sql.Node}
    (negated : Bool)
    (method : Option Method)
    (valueType : ValueType)
    (requireCondition : Bool)
    (shallow :
      (Query.binary (.equality negated) left right method valueType).depth ≤
        lowerer.settings.maxDepth.toNat)
    (leftGiven : (lowerer.visit select left).result = .ok leftValue)
    (rightGiven : (lowerer.visit select right).result = .ok rightValue)
    (leftKnown : leftValue.operand? = some leftNode)
    (rightKnown : rightValue.operand? = some rightNode) :
    lowerer.lower select
        (.binary (.equality negated) left right method valueType)
        requireCondition =
      (.ok (lowerer.finish requireCondition
          (.sql (Lowering.combination lowerer.mappings (.equality negated)
            valueType leftNode rightNode))),
        select.noteColumns
          ((lowerer.visit select left).columns ++
            (lowerer.visit select right).columns)) := by
  rw [lower_of_shallow lowerer select requireCondition shallow,
    visit_binary_of_ok lowerer select _ method valueType leftGiven rightGiven,
    Lowering.binary_equality negated method valueType leftKnown rightKnown]
  rfl

/-- Neither side of a comparison is deeper than the comparison. -/
theorem shallow_of_side
    {limit : Nat}
    {op : Query.BinaryOp}
    {operand other left right : Query}
    {method : Option Method}
    {valueType : ValueType}
    (shallow : (Query.binary op left right method valueType).depth ≤ limit)
    (sides : left = operand ∧ right = other ∨ left = other ∧ right = operand) :
    operand.depth ≤ limit := by
  rw [Query.depth_eq_height, Query.height] at shallow
  rw [Query.depth_eq_height]
  rcases sides with ⟨rfl, rfl⟩ | ⟨rfl, rfl⟩
  · omega
  · omega

/-- A test for equality between null and another expression, on either side,
lowers to the null test of the other expression, which is a condition under the
canonical mapping and negated as the test is. It binds the columns that the
other expression binds alone. Between two expressions of which both or neither
is null, it lowers to the same test. -/
theorem lower_comparesNull
    (lowerer : Lowerer)
    (select : Select)
    (negated : Bool)
    (method : Option Method)
    (valueType : ValueType)
    (requireCondition : Bool) :
    (∀ null operand left right value node,
      null.DenotesNull →
      (lowerer.visit select operand).result = .ok value →
      value.operand? = some node →
      node.isNullLiteral = false →
      left = operand ∧ right = null ∨ left = null ∧ right = operand →
      (Query.binary (.equality negated) left right method valueType).depth ≤
        lowerer.settings.maxDepth.toNat →
      ∀ requireConditionAlone,
        lowerer.lower select
            (.binary (.equality negated) left right method valueType)
            requireCondition =
          (.ok (.sql (.apply
              ⟨.boolean, some lowerer.mappings.canonicalBoolean, true⟩
              (.nullTest negated) (node.infer lowerer.mappings))),
            (lowerer.lower select operand requireConditionAlone).2)) ∧
    (∀ left right leftValue rightValue leftNode rightNode,
      (lowerer.visit select left).result = .ok leftValue →
      (lowerer.visit select right).result = .ok rightValue →
      leftValue.operand? = some leftNode →
      rightValue.operand? = some rightNode →
      leftNode.isNullLiteral = rightNode.isNullLiteral →
      (Query.binary (.equality negated) left right method valueType).depth ≤
        lowerer.settings.maxDepth.toNat →
      (lowerer.lower select
          (.binary (.equality negated) left right method valueType)
          requireCondition).1 =
        .ok (.sql (.combine
          ⟨valueType, some lowerer.mappings.canonicalBoolean, true⟩
          (.equality negated) (leftNode.inferBeside lowerer.mappings rightNode)
          (rightNode.inferBeside lowerer.mappings leftNode)))) := by
  constructor
  · intro null operand left right value node denotesNull given known notNull
      sides shallow requireConditionAlone
    obtain ⟨nullValue, nullNode, nullVisited, nullKnown, isNull⟩ :=
      visit_denotesNull lowerer select denotesNull
    have nullGiven : (lowerer.visit select null).result = .ok nullValue :=
      congrArg Attempt.result nullVisited
    have nullBinds : (lowerer.visit select null).columns = [] :=
      congrArg Attempt.columns nullVisited
    rw [lower_of_shallow lowerer select requireConditionAlone
      (shallow_of_side shallow sides)]
    rcases sides with ⟨rfl, rfl⟩ | ⟨rfl, rfl⟩
    · rw [lower_equality lowerer select negated method valueType
          requireCondition shallow given nullGiven known nullKnown,
        Lowering.combination_of_one_null negated valueType notNull
          (.inl ⟨rfl, isNull⟩),
        Sql.Node.infer_nullTest,
        finish_of_mapped_condition lowerer requireCondition rfl rfl, nullBinds,
        List.append_nil]
    · rw [lower_equality lowerer select negated method valueType
          requireCondition shallow nullGiven given nullKnown known,
        Lowering.combination_of_one_null negated valueType notNull
          (.inr ⟨isNull, rfl⟩),
        Sql.Node.infer_nullTest,
        finish_of_mapped_condition lowerer requireCondition rfl rfl, nullBinds,
        List.nil_append]
  · intro left right leftValue rightValue leftNode rightNode leftGiven
      rightGiven leftKnown rightKnown same shallow
    rw [lower_equality lowerer select negated method valueType requireCondition
        shallow leftGiven rightGiven leftKnown rightKnown,
      Lowering.combination_of_same_null negated valueType same,
      Sql.Node.infer_equality,
      finish_of_mapped_condition lowerer requireCondition rfl rfl]

/-- An age is compared with a null that is cast to a number and converted to the
erased type; and this null with one that has no type of its own. -/
theorem lower_comparesNull_age :
    let source := Dialect.postgres.mappings
    let property : Property := ⟨"Age", "age", .orNull .int32, none⟩
    let model : EntityModel := ⟨[⟨"Customer", "customers", [property]⟩]⟩
    let select : Select := ⟨source, [⟨"c", "customers", "Customer", ⟨0⟩⟩], []⟩
    let lowerer := withBuiltInRules model source .standard
    let age := Query.access (some (.shaper ⟨"Customer", ⟨0⟩⟩))
      ⟨.object, "Age", .orNull .int32⟩
    let null := Query.unary .convert (.unary .convert .null .int32) .object
    let truth := some source.canonicalBoolean
    let stored :=
      Sql.Node.leaf ⟨.orNull .int32, Dialect.postgres.mapping? .int32, false⟩
        (.column ⟨"c", "age"⟩)
    let bareNull :=
      Sql.Node.leaf ⟨.orNull .object, none, false⟩ (.constant .null)
    let castNull := Sql.Node.apply
      ⟨.orNull .int32, Dialect.postgres.mapping? .int32, false⟩ .cast bareNull
    null.DenotesNull ∧
      (lowerer.visit select age).result = .ok (.sql stored) ∧
      (lowerer.visit select null).result =
        .ok (.convert (.sql castNull) .object) ∧
      lowerer.lower select (.binary .notEqual null age none .boolean) true =
        (.ok (.sql (.apply ⟨.boolean, truth, true⟩ (.nullTest true) stored)),
          { select with columns := [⟨"c", "age"⟩] }) ∧
      (lowerer.lower select (.binary .equal null .null none .boolean) true).1 =
        .ok (.sql (.combine ⟨.boolean, truth, true⟩ .equal
          (castNull.inferBeside source bareNull)
          (bareNull.inferBeside source castNull))) := by
  intro source property model select lowerer age null truth stored bareNull
    castNull
  have denotesNull : null.DenotesNull := .erasure (.cast (.constant _) rfl) rfl
  have ageGiven : (lowerer.visit select age).result = .ok (.sql stored) := by
    cbv
  have nullGiven : (lowerer.visit select null).result =
      .ok (.convert (.sql castNull) .object) := by
    cbv
  refine ⟨denotesNull, ageGiven, nullGiven, ?_, ?_⟩
  · have tested := (lower_comparesNull lowerer select true none .boolean true).1
      null age null age (.sql stored) stored denotesNull ageGiven rfl rfl
      (.inr ⟨rfl, rfl⟩) (by cbv) false
    have ageAlone : lowerer.lower select age false =
        (.ok (.sql stored), { select with columns := [⟨"c", "age"⟩] }) := by cbv
    rw [ageAlone] at tested
    exact tested
  · exact (lower_comparesNull lowerer select false none .boolean true).2 null
      .null _ _ castNull bareNull nullGiven rfl rfl rfl (by cbv) (by cbv)

end Lowerer
end QueryLowering
