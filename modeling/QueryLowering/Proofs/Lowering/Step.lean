import QueryLowering.Lowerer

/-!
# What single steps of lowering give

A step takes the results for the parts of a query. For each there is one lemma
with all that the step can give, and under which conditions.
-/

namespace QueryLowering

namespace Lowered

/-- The SQL expression under at most one conversion to the erased type. -/
theorem operand?_eq_some_iff (result : Lowered) (node : Sql.Node) :
    result.operand? = some node ↔
      result = .sql node ∨
        ∃ target, target.isErased = true ∧
          result = .convert (.sql node) target := by
  cases result with
  | sql given => simp [operand?]
  | shaper entity => simp [operand?]
  | projection fields => simp [operand?]
  | extension name children => simp [operand?]
  | unsupported => simp [operand?]
  | convert operand target =>
      cases operand with
      | sql given => cases erased : target.isErased <;> simp [operand?, erased]
      | _ => simp [operand?]

end Lowered

namespace Lowerer

variable (lowerer : Lowerer) (select : Select)

theorem finish_sql (requireCondition : Bool) (node : Sql.Node) :
    lowerer.finish requireCondition (.sql node) =
      .sql (if requireCondition then
          (node.infer lowerer.mappings).toCondition
            lowerer.mappings.canonicalBoolean
        else node.infer lowerer.mappings) := by
  cases requireCondition <;> rfl

/-- A bound property is the column that stores it. -/
theorem result_bindProperty_eq_ok_iff
    (entity : EntityRef)
    (name : String)
    (result : Lowered) :
    (lowerer.bindProperty select entity name).result = .ok result ↔
      ∃ entityType property column,
        lowerer.model.entity? entity.entityType = some entityType ∧
        entityType.property? name = some property ∧
        select.columnRef entity.buffer property = .ok column ∧
        .sql (select.columnNode column property) = result := by
  unfold bindProperty
  split
  · next noEntity => simp [noEntity]
  · next entityType entityKnown =>
      split
      · next noProperty => simp [entityKnown, noProperty]
      · next property propertyKnown =>
          split
          · next error unbound => simp [entityKnown, propertyKnown, unbound]
          · next column bound => simp [entityKnown, propertyKnown, bound]

/-- Where both operands give values, a binary operator is what the operator
gives of these, after the columns of both. -/
theorem visit_binary_of_ok
    {left right : Query}
    {leftValue rightValue : Lowered}
    (op : Query.BinaryOp)
    (method : Option Method)
    (valueType : ValueType)
    (leftGiven : (lowerer.visit select left).result = .ok leftValue)
    (rightGiven : (lowerer.visit select right).result = .ok rightValue) :
    lowerer.visit select (.binary op left right method valueType) =
      ⟨(lowerer.visit select left).columns ++
          (lowerer.visit select right).columns,
        Lowering.binary lowerer.mappings op method valueType
          leftValue rightValue⟩ := by
  rw [visit, Attempt.bind_of_ok _ leftGiven, Attempt.bind_of_ok _ rightGiven]
  simp

/-- Only a call of the property accessor accesses a property. -/
theorem accessedProperty?_eq_none
    {method : Method}
    (arguments : List Query)
    (notAccessor : method.kind ≠ .propertyAccessor) :
    accessedProperty? method arguments = none := by
  unfold accessedProperty?
  split
  · next isAccessor => exact absurd isAccessor notAccessor
  · rfl

/-- Where the target and the arguments give values, a call that is no property
accessor is decided by the rules, after the columns of the target and of the
arguments. -/
theorem visit_call_of_ok
    {target : Option Query}
    {method : Method}
    {arguments : List Query}
    {targetColumns argumentColumns : List Sql.ColumnRef}
    {targetValue : Option Lowered}
    {values : List Lowered}
    (notAccessor : method.kind ≠ .propertyAccessor)
    (targetVisited : lowerer.visitInner select target =
      ⟨targetColumns, .ok targetValue⟩)
    (argumentsVisited : Attempt.sequence (lowerer.visitAll select arguments) =
      ⟨argumentColumns, .ok values⟩) :
    lowerer.visit select (.call target method arguments) =
      ⟨targetColumns ++ argumentColumns,
        .ok (lowerer.applyRules lowerer.callRules
          ⟨targetValue, method, values⟩)⟩ := by
  rw [visit, accessedProperty?_eq_none arguments notAccessor, lowerCall,
    lowerRuleCall, targetVisited, Attempt.bind_of_ok _ rfl, argumentsVisited,
    Attempt.bind_of_ok _ rfl]
  · simp
  · simp

/-- The rules give SQL with its mappings, or nothing. -/
theorem applyRules_cases (rules : List (Rule α)) (use : α) :
    lowerer.applyRules rules use = .unsupported ∨
      ∃ node, Rule.firstMatch? rules use = some node ∧
        lowerer.applyRules rules use = .sql (node.infer lowerer.mappings) := by
  unfold applyRules
  split
  · next node matched => exact .inr ⟨node, matched, rfl⟩
  · exact .inl rfl

end Lowerer

namespace Lowering

/-- The first textual mapping that an operand of a concatenation carries, else
that an operand is inferred to have. -/
def concatenationMapping?
    (source : MappingSource)
    (left right : Sql.Node) :
    Option TypeMapping :=
  (Sql.Node.firstMapping? TypeMapping.isTextual left right).or
    (Sql.Node.firstMapping? TypeMapping.isTextual (left.infer source)
      (right.infer source))

theorem isTextual_of_concatenationMapping?
    {source : MappingSource}
    {left right : Sql.Node}
    {mapping : TypeMapping}
    (known : concatenationMapping? source left right = some mapping) :
    mapping.isTextual = true := by
  simp only [concatenationMapping?, Sql.Node.firstMapping?,
    Option.or_eq_some_iff, Option.filter_eq_some_iff] at known
  rcases known with
    (⟨_, textual⟩ | ⟨_, _, textual⟩) | ⟨_, ⟨_, textual⟩ | ⟨_, _, textual⟩⟩
  · exact textual
  · exact textual
  · exact textual
  · exact textual

/-- A concatenation stands under the common textual mapping of its operands. -/
theorem concatenation_eq_ok_iff
    (source : MappingSource)
    (left right node : Sql.Node) :
    concatenation source left right = .ok node ↔
      ∃ mapping, concatenationMapping? source left right = some mapping ∧
        (Sql.Node.binary .concat (asText mapping (left.infer source))
          (asText mapping (right.infer source))
          (ValueType.string.withNullability
            ((asText mapping (left.infer source)).valueType.nullable ||
              (asText mapping
                (right.infer source)).valueType.nullable))).withMapping
              mapping =
          node := by
  unfold concatenation
  dsimp only
  rw [← concatenationMapping?]
  cases concatenationMapping? source left right <;> simp

/-- A binary operator gives SQL over two SQL operands, or nothing. -/
theorem binary_cases
    {source : MappingSource}
    {op : Query.BinaryOp}
    {method : Option Method}
    {valueType : ValueType}
    {left right result : Lowered}
    (combined : binary source op method valueType left right = .ok result) :
    result = .unsupported ∨
      ∃ leftNode rightNode node, left.operand? = some leftNode ∧
        right.operand? = some rightNode ∧ result = .sql node ∧
        (joinsTexts op method = true ∧
            concatenation source leftNode rightNode = .ok node ∨
          joinsTexts op method = false ∧
            node = combination source op valueType leftNode rightNode) := by
  unfold binary at combined
  split at combined
  · next leftNode rightNode leftSql rightSql =>
      right
      cases joins : joinsTexts op method with
      | true =>
          rw [if_pos joins] at combined
          cases given : concatenation source leftNode rightNode with
          | error error => simp [given, Except.map] at combined
          | ok node =>
              simp only [given, Except.map, Except.ok.injEq] at combined
              exact ⟨leftNode, rightNode, node, leftSql, rightSql,
                combined.symm, .inl ⟨rfl, given⟩⟩
      | false =>
          rw [if_neg (by simp [joins])] at combined
          exact ⟨leftNode, rightNode, _, leftSql, rightSql,
            (Except.ok.inj combined).symm, .inr ⟨rfl, rfl⟩⟩
  · exact .inl (Except.ok.inj combined).symm

/-- A binary operator over two expressions is a null test of one of them, joins
two conditions, or applies to the expressions as they are. -/
theorem combination_cases
    (source : MappingSource)
    (op : Query.BinaryOp)
    (valueType : ValueType)
    (left right : Sql.Node) :
    (∃ operand negated, (operand = left ∨ operand = right) ∧
      op.isEquality = true ∧
      combination source op valueType left right =
        (Sql.Node.nullTest operand negated).infer source) ∨
    (op.isLogical = true ∧
      combination source op valueType left right =
        (Sql.Node.binary op.toSql (conditionOperand source left)
            (conditionOperand source right) valueType).infer source) ∨
    (op.isLogical = false ∧
      combination source op valueType left right =
        (Sql.Node.binary op.toSql left right valueType).infer source) := by
  unfold combination
  split
  · next tested =>
      left
      refine ⟨_, _, ?_, by simpa using (Bool.and_eq_true_iff.1 tested).1, rfl⟩
      cases left.isNullLiteral <;> simp
  · split
    · next logical => exact .inr (.inl ⟨logical, rfl⟩)
    · next notLogical => exact .inr (.inr ⟨by simpa using notLogical, rfl⟩)

/-- A unary operator gives a cast, a negation or a kept conversion of a complete
operand, or nothing. -/
theorem unary_cases
    (source : MappingSource)
    (op : Query.UnaryOp)
    (valueType : ValueType)
    (operand : Lowered) :
    unary source op valueType operand = .unsupported ∨
    (operand.isComplete = true ∧ op = .convert ∧
      unary source op valueType operand = .convert operand valueType) ∨
    (∃ node, operand = .sql node ∧ op = .convert ∧ valueType.isErased = false ∧
      unary source op valueType operand =
        .sql ((node.cast valueType).infer source)) ∨
    (∃ node, operand.operand? = some node ∧ op = .not ∧
      unary source op valueType operand =
        .sql (((conditionOperand source node).not valueType).infer source)) ∨
    (∃ node, operand.operand? = some node ∧ op = .negate ∧
      unary source op valueType operand =
        .sql ((node.negate valueType).infer source)) := by
  cases complete : operand.isComplete with
  | false => simp [unary, complete]
  | true =>
      cases op with
      | convert =>
          cases operand with
          | sql node =>
              cases erased : valueType.isErased <;>
                simp [unary, complete, erased]
          | _ => simp [unary, complete]
      | not =>
          cases known : operand.operand? <;> simp [unary, complete, known]
      | negate =>
          cases known : operand.operand? <;> simp [unary, complete, known]

end Lowering
end QueryLowering
