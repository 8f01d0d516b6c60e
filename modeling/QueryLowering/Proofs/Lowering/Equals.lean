import QueryLowering.Proofs.Lowering.Invariant
import QueryLowering.Proofs.Lowering.NullTest
import QueryLowering.Proofs.Sql.Kept

/-!
# The method of equality and its operator

The call `a.equals(b)` and the comparison of `a` and `b` for equality bind the
same columns and are refused at the same depth. The call goes through the rules,
and the rule of equality does not look for null: it compares any two SQL
expressions. The comparison becomes a null test when just one side is a null
literal. So the two lower to the same, exactly when both sides are null literals
or neither is.
-/

namespace QueryLowering

/-- The call `target.equals(argument)` of a method of values of a kind. -/
def Query.equalsCall (declaringKind : Kind) (target argument : Query) : Query :=
  .call (some target) ⟨.instanceMethod, declaringKind, "equals", .boolean⟩
    [argument]

/-- The call of equality is as deep as the comparison. -/
theorem Query.depth_equalsCall
    (declaringKind : Kind)
    (left right : Query)
    (method : Option Method) :
    (equalsCall declaringKind left right).depth =
      (binary .equal left right method .boolean).depth := by
  simp [equalsCall, depth_eq_children, children]

/-- The built-in rules compare the target and the only argument of a call of
equality. -/
theorem Rule.firstMatch?_builtInCalls_equals
    (declaringKind : Kind)
    (left right : Sql.Node) :
    firstMatch? builtInCalls
        ⟨some (.sql left), ⟨.instanceMethod, declaringKind, "equals", .boolean⟩,
          [.sql right]⟩ =
      some (.binary .equal left right .boolean) := rfl

namespace Lowerer

variable (lowerer : Lowerer) (select : Select)

/-- A call of a method of an instance with one argument is decided by the rules,
after the columns of the target and of the argument. -/
theorem visit_instanceCall_of_ok
    {target argument : Query}
    {method : Method}
    {targetValue argumentValue : Lowered}
    (instanceMethod : method.kind = .instanceMethod)
    (targetGiven : (lowerer.visit select target).result = .ok targetValue)
    (argumentGiven : (lowerer.visit select argument).result =
      .ok argumentValue) :
    lowerer.visit select (.call (some target) method [argument]) =
      ⟨(lowerer.visit select target).columns ++
          (lowerer.visit select argument).columns,
        .ok (lowerer.applyRules lowerer.callRules
          ⟨some targetValue, method, [argumentValue]⟩)⟩ := by
  have targetAttempt : lowerer.visitInner select (some target) =
      ⟨(lowerer.visit select target).columns, .ok (some targetValue)⟩ := by
    rw [visitInner, Attempt.bind_of_ok _ targetGiven]
    simp
  have argumentAttempt : Attempt.sequence (lowerer.visitAll select [argument]) =
      ⟨(lowerer.visit select argument).columns, .ok [argumentValue]⟩ := by
    rw [visitAll, visitAll, Attempt.sequence,
      Attempt.bind_of_ok _ argumentGiven, Attempt.sequence_nil,
      Attempt.bind_of_ok _ rfl]
    simp
  exact visit_call_of_ok lowerer select (by simp [instanceMethod]) targetAttempt
    argumentAttempt

/-- A comparison for equality is finished when its mappings are inferred. -/
theorem finish_comparison
    (left right : Sql.Node)
    (requireCondition : Bool) :
    lowerer.finish requireCondition
        (.sql ((Sql.Node.binary .equal left right .boolean).infer
          lowerer.mappings)) =
      .sql ((Sql.Node.binary .equal left right .boolean).infer
        lowerer.mappings) := by
  have compared :=
    Sql.Node.infer_equality lowerer.mappings false left right .boolean
  exact finish_of_mapped_condition lowerer requireCondition
    (congrArg (Option.isSome ∘ Sql.Node.mapping) compared)
    (congrArg Sql.Node.isCondition compared)

/-- The call of equality over two SQL expressions compares them, whether one of
them is null or not. -/
theorem lower_equalsCall
    {left right : Query}
    {leftNode rightNode : Sql.Node}
    (declaringKind : Kind)
    (requireCondition : Bool)
    (builtIn : lowerer.callRules = Rule.builtInCalls)
    (shallow : (Query.equalsCall declaringKind left right).depth ≤
      lowerer.settings.maxDepth.toNat)
    (leftGiven : (lowerer.visit select left).result = .ok (.sql leftNode))
    (rightGiven : (lowerer.visit select right).result = .ok (.sql rightNode)) :
    lowerer.lower select (.equalsCall declaringKind left right)
        requireCondition =
      (.ok (.sql ((Sql.Node.binary .equal leftNode rightNode .boolean).infer
          lowerer.mappings)),
        select.noteColumns ((lowerer.visit select left).columns ++
          (lowerer.visit select right).columns)) := by
  rw [lower_of_shallow lowerer select requireCondition shallow,
    Query.equalsCall,
    visit_instanceCall_of_ok lowerer select rfl leftGiven rightGiven,
    applyRules, builtIn, Rule.firstMatch?_builtInCalls_equals]
  simp only [Except.map, finish_comparison]

/-- Under any demand for a condition, two operands combine for equality to their
comparison exactly when both are null literals or neither is. -/
theorem finish_combination_eq_iff
    (left right : Sql.Node)
    (requireCondition : Bool) :
    lowerer.finish requireCondition (.sql
        (Lowering.combination lowerer.mappings .equal .boolean left right)) =
        .sql ((Sql.Node.binary .equal left right .boolean).infer
          lowerer.mappings) ↔
      left.isNullLiteral = right.isNullLiteral := by
  by_cases same : left.isNullLiteral = right.isNullLiteral
  · have kept :
        Lowering.combination lowerer.mappings .equal .boolean left right =
          (Sql.Node.binary .equal left right .boolean).infer lowerer.mappings :=
      Lowering.combination_of_same_null false .boolean same
    simp only [same, iff_true]
    exact (congrArg (lowerer.finish requireCondition ∘ .sql) kept).trans
      (lowerer.finish_comparison left right requireCondition)
  · simp only [same, iff_false]
    have tested :
        Lowering.combination lowerer.mappings .equal .boolean left right =
          (Sql.Node.nullTest (if left.isNullLiteral then right else left)
            false).infer lowerer.mappings := by
      simp only [Lowering.combination, Query.BinaryOp.isEquality, bne_iff_ne,
        ne_eq, same, not_false_eq_true, Bool.true_and, if_true]
      rfl
    rw [tested, Sql.Node.infer_nullTest,
      finish_of_mapped_condition lowerer requireCondition rfl rfl]
    intro equal
    cases (Lowered.sql.inj equal).trans
      (Sql.Node.infer_equality lowerer.mappings false left right .boolean)

/-- With the built-in rules, the call of equality and the comparison of two
queries that lower to SQL bind the same columns. They give the same result
exactly when both sides are null literals or neither is, or when they are too
deep. The call itself, if it is not too deep, always gives the comparison of
both sides, which differ from what they lower to on their own in their mappings
alone. -/
theorem lower_equalsCall_eq_iff
    (lowerer : Lowerer)
    (select : Select)
    (declaringKind : Kind)
    (left right : Query)
    (leftNode rightNode : Sql.Node)
    (method : Option Method)
    (requireCondition : Bool)
    (builtIn : lowerer.HasBuiltInRules)
    (leftLowered : (lowerer.lower select left false).1 = .ok (.sql leftNode))
    (rightLowered : (lowerer.lower select right false).1 =
      .ok (.sql rightNode)) :
    (lowerer.lower select (.equalsCall declaringKind left right)
          requireCondition).2 =
        (lowerer.lower select (.binary .equal left right method .boolean)
          requireCondition).2 ∧
      ((lowerer.lower select (.equalsCall declaringKind left right)
            requireCondition).1 =
          (lowerer.lower select (.binary .equal left right method .boolean)
            requireCondition).1 ↔
        lowerer.settings.maxDepth.toNat <
            (Query.equalsCall declaringKind left right).depth ∨
          leftNode.isNullLiteral = rightNode.isNullLiteral) ∧
      ((Query.equalsCall declaringKind left right).depth ≤
          lowerer.settings.maxDepth.toNat →
        ∃ first second : Sql.Node,
          first.withoutMappings = leftNode.withoutMappings ∧
          second.withoutMappings = rightNode.withoutMappings ∧
          (lowerer.lower select (.equalsCall declaringKind left right)
              requireCondition).1 =
            .ok (.sql (.combine
              ⟨.boolean, some lowerer.mappings.canonicalBoolean, true⟩ .equal
              first second))) := by
  have sameDepth := Query.depth_equalsCall declaringKind left right method
  obtain ⟨_, leftRaw, leftGiven, rfl⟩ :=
    (lower_eq_sql_iff _ _ _ _).1 leftLowered
  obtain ⟨_, rightRaw, rightGiven, rfl⟩ :=
    (lower_eq_sql_iff _ _ _ _).1 rightLowered
  by_cases tooDeep :
      lowerer.settings.maxDepth.toNat <
        (Query.equalsCall declaringKind left right).depth
  · rw [lower, lower, if_pos tooDeep, if_pos (sameDepth ▸ tooDeep)]
    simp [tooDeep, Nat.not_le.2 tooDeep]
  · have shallow := Nat.not_lt.1 tooDeep
    have called := lower_equalsCall lowerer select declaringKind
      requireCondition builtIn.calls shallow leftGiven rightGiven
    have compared := lower_equality lowerer select false method .boolean
      requireCondition (sameDepth ▸ shallow) leftGiven rightGiven rfl rfl
    simp only [Query.BinaryOp.equality] at compared
    have sameResult :=
      lowerer.finish_combination_eq_iff leftRaw rightRaw requireCondition
    rw [called, compared, Sql.Node.isNullLiteral_infer,
      Sql.Node.isNullLiteral_infer, ← sameResult]
    refine ⟨rfl, ?_, fun _ => ?_⟩
    · simp only [tooDeep, false_or, Except.ok.injEq]
      exact eq_comm
    · refine ⟨leftRaw.inferBeside lowerer.mappings rightRaw,
        rightRaw.inferBeside lowerer.mappings leftRaw, ?_, ?_, ?_⟩
      · have kept := Sql.Node.withoutMappings_infer lowerer.mappings leftRaw
        rw [kept, Sql.Node.withoutMappings_inferBeside _ _ kept]
      · have kept := Sql.Node.withoutMappings_infer lowerer.mappings rightRaw
        rw [kept, Sql.Node.withoutMappings_inferBeside _ _ kept]
      · exact congrArg (Except.ok ∘ Lowered.sql)
          (Sql.Node.infer_equality lowerer.mappings false leftRaw rightRaw
            .boolean)

/-- The length of a parameter is equal to a number, as a call and as a
comparison. -/
theorem lower_equalsCall_length :
    let source := Dialect.sqlServer.mappings
    let lowerer := withBuiltInRules .empty source .standard
    let select := Select.empty source
    let length := Query.access (some (.parameter "name" .string))
      ⟨.string, "length", .int32⟩
    let five := Query.constant (.integer 5) .int32
    let ofText : Sql.Header :=
      ⟨.string, Dialect.sqlServer.mapping? .string, false⟩
    let ofNumber : Sql.Header :=
      ⟨.int32, Dialect.sqlServer.mapping? .int32, false⟩
    let lengthNode :=
      Sql.Node.call ofNumber "LENGTH" [.leaf ofText (.parameter "name")]
    let fiveNode := Sql.Node.leaf ofNumber (.constant (.integer 5))
    (lowerer.lower select length false).1 = .ok (.sql lengthNode) ∧
      (lowerer.lower select five false).1 = .ok (.sql fiveNode) ∧
      (lowerer.lower select (.equalsCall .int32 length five) true).1 =
        (lowerer.lower select (.binary .equal length five none .boolean)
          true).1 := by
  intro source lowerer select length five ofText ofNumber lengthNode fiveNode
  have lengthLowered : (lowerer.lower select length false).1 =
      .ok (.sql lengthNode) := by
    cbv
  have fiveLowered : (lowerer.lower select five false).1 =
      .ok (.sql fiveNode) := by
    cbv
  refine ⟨lengthLowered, fiveLowered, ?_⟩
  exact (lower_equalsCall_eq_iff lowerer select .int32 length five lengthNode
    fiveNode none true ⟨rfl, rfl⟩ lengthLowered fiveLowered).2.1.2 (.inr rfl)

/-- The call of equality with null compares a parameter with null, where the
comparison is the null test of the parameter. -/
theorem lower_equalsCall_null :
    let source := Dialect.sqlServer.mappings
    let lowerer := withBuiltInRules .empty source .standard
    let select := Select.empty source
    let age := Query.parameter "age" (.orNull .int32)
    let truth : Sql.Header := ⟨.boolean, some source.canonicalBoolean, true⟩
    let number := Dialect.sqlServer.mapping? .int32
    let stored :=
      Sql.Node.leaf ⟨.orNull .int32, number, false⟩ (.parameter "age")
    let null := Sql.Node.leaf ⟨.orNull .object, number, false⟩ (.constant .null)
    (lowerer.lower select (.equalsCall .int32 age .null) true).1 =
        .ok (.sql (.combine truth .equal stored null)) ∧
      (lowerer.lower select (.binary .equal age .null none .boolean) true).1 =
        .ok (.sql (.apply truth (.nullTest false) stored)) ∧
      (lowerer.lower select (.equalsCall .int32 age .null) true).1 ≠
        (lowerer.lower select (.binary .equal age .null none .boolean)
          true).1 := by
  intro source lowerer select age truth number stored null
  have called : (lowerer.lower select (.equalsCall .int32 age .null) true).1 =
      .ok (.sql (.combine truth .equal stored null)) := by cbv
  have compared :
      (lowerer.lower select (.binary .equal age .null none .boolean) true).1 =
        .ok (.sql (.apply truth (.nullTest false) stored)) := by
    cbv
  refine ⟨called, compared, ?_⟩
  rw [called, compared]
  rintro ⟨⟩

end Lowerer
end QueryLowering
