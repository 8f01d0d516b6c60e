import QueryLowering.Proofs.Rule.BuiltIn
import QueryLowering.Proofs.Sql.Columns

/-!
# What the built-in rules take

A built-in rule that does not decline has taken everything that the use of a
member or a call was lowered to: each part is SQL, and the expression of the
rule has the columns of the parts, in their order. Only the target of a static
method can be left out.
-/

namespace QueryLowering

namespace CallUse

/-- The target and the arguments. -/
def parts (use : CallUse) : List Lowered := use.target.toList ++ use.arguments

end CallUse

namespace Rule

/-- The arguments of a function have the columns that those of the method
have. -/
theorem SqlFunction.columns_adjust
    (function : SqlFunction)
    (arguments : List Sql.Node) :
    (function.adjust arguments).flatMap Sql.Node.columns =
      arguments.flatMap Sql.Node.columns := by
  unfold adjust
  split
  · next adjustment _ =>
      unfold Adjustment.apply
      split
      · simp [Sql.Node.binary, integerNode, Sql.Node.constant, Sql.Atom.columns]
      · simp [integerNode, Sql.Node.constant, Sql.Atom.columns]
      · rfl
  · rfl

/-- A built-in rule for members uses no column where there is no inner
expression, and otherwise takes SQL and uses its columns. -/
theorem operands_of_builtInMember
    {use : MemberUse}
    {node : Sql.Node}
    (matched : firstMatch? builtInMembers use = some node) :
    use.inner = none ∧ node.columns = [] ∨
      ∃ inner, use.inner = some (.sql inner) ∧
        node.columns = inner.columns := by
  rcases builtInMember_cases matched with given | given | given
  · obtain ⟨_, _, inner, known, rfl⟩ := (hasValue_eq_some_iff use node).1 given
    exact .inr ⟨inner, (use.innerSql?_eq_some_iff inner).1 known,
      by simp [Sql.Node.nullTest]⟩
  · obtain ⟨_, _, inner, known, rfl⟩ :=
      (stringLength_eq_some_iff use node).1 given
    exact .inr ⟨inner, (use.innerSql?_eq_some_iff inner).1 known,
      by simp [Sql.Node.function]⟩
  · obtain ⟨_, ⟨absent, _, rfl⟩ | ⟨keyword, operand, _, known, rfl⟩⟩ :=
      (dateTimeMember_eq_some_iff use node).1 given
    · exact .inl ⟨absent, by simp [Sql.Node.fragment, Sql.Atom.columns]⟩
    · exact .inr ⟨operand, (use.innerSql?_eq_some_iff operand).1 known,
        by simp [Sql.Node.function, Sql.Node.fragment, Sql.Atom.columns]⟩

/-- What a built-in rule for calls has taken: SQL parts alone, with the columns
of the expression that it gives. -/
structure TakesParts
    (use : CallUse)
    (node : Sql.Node)
    (nodes : List Sql.Node) : Prop where
  notAccessor : use.method.kind ≠ .propertyAccessor
  parts : use.parts = nodes.map .sql
  columns : node.columns = nodes.flatMap Sql.Node.columns

theorem takesParts_equals
    {use : CallUse}
    {node : Sql.Node}
    (given : equals use = some node) :
    ∃ nodes, TakesParts use node nodes := by
  obtain ⟨ofInstance, _, left, right, leftKnown, rightKnown, rfl⟩ :=
    (equals_eq_some_iff use node).1 given
  obtain ⟨argument, only, argumentKnown⟩ :=
    (CallUse.onlyArgumentSql?_eq_some_iff use right).1 rightKnown
  obtain rfl := (Lowered.sql?_eq_some_iff argument right).1 argumentKnown
  refine ⟨[left, right], by simp [ofInstance], ?_, by simp [Sql.Node.binary]⟩
  simp [CallUse.parts, only, (use.targetSql?_eq_some_iff left).1 leftKnown]

theorem takesParts_stringSearch
    {use : CallUse}
    {node : Sql.Node}
    (given : stringSearch use = some node) :
    ∃ nodes, TakesParts use node nodes := by
  obtain ⟨ofInstance, _, target, _, pattern, _, targetKnown, patternKnown,
      isText, _, _, rfl⟩ :=
    (stringSearch_eq_some_iff use node).1 given
  obtain ⟨argument, only, argumentKnown⟩ :=
    (CallUse.onlyArgumentSql?_eq_some_iff use pattern).1 patternKnown
  obtain rfl := (Lowered.sql?_eq_some_iff argument pattern).1 argumentKnown
  refine ⟨[target, pattern], by simp [ofInstance], ?_, ?_⟩
  · simp [CallUse.parts, only,
      (use.targetSql?_eq_some_iff target).1 targetKnown]
  · -- the pattern is a constant, and so is the one it is replaced by
    simp [Sql.Node.binary, Sql.Node.constant, Sql.Atom.columns,
      Sql.Node.columns_of_literal? isText]

theorem takesParts_functionCall
    {use : CallUse}
    {node : Sql.Node}
    (bare : use.method.kind = .staticMethod → use.target = none)
    (given : functionCall use = some node) :
    ∃ nodes, TakesParts use node nodes := by
  obtain ⟨function, leading, rest, _, accepted, leadingKnown, restKnown, rfl⟩ :=
    (functionCall_eq_some_iff use node).1 given
  have argumentsAreSql := (use.argumentsSql?_eq_some_iff rest).1 restKnown
  have ofTarget :
      use.method.kind ≠ .propertyAccessor ∧
        use.target.toList = leading.map .sql := by
    unfold SqlFunction.accepts at accepted
    unfold leadingArguments? at leadingKnown
    cases isInstance : function.instanceOf with
    | some kind =>
        simp only [isInstance, Bool.and_eq_true, beq_iff_eq] at accepted
        simp only [isInstance, Option.map_eq_some_iff] at leadingKnown
        obtain ⟨target, targetKnown, rfl⟩ := leadingKnown
        simp [accepted.1, (use.targetSql?_eq_some_iff target).1 targetKnown]
    | none =>
        simp only [isInstance, beq_iff_eq] at accepted
        simp only [isInstance, Option.some.injEq] at leadingKnown
        subst leadingKnown
        simp [accepted, bare accepted]
  refine ⟨leading ++ rest, ofTarget.1, ?_, ?_⟩
  · simp [CallUse.parts, ofTarget.2, argumentsAreSql]
  · rw [Sql.Node.function, Sql.Node.columns_call, SqlFunction.columns_adjust]

/-- A built-in rule for calls takes the target and all arguments as SQL, if no
static method has a target. -/
theorem takesParts_of_builtInCall
    {use : CallUse}
    {node : Sql.Node}
    (bare : use.method.kind = .staticMethod → use.target = none)
    (matched : firstMatch? builtInCalls use = some node) :
    ∃ nodes, TakesParts use node nodes := by
  rcases builtInCall_cases matched with given | given | given
  · exact takesParts_equals given
  · exact takesParts_stringSearch given
  · exact takesParts_functionCall bare given

end Rule
end QueryLowering
