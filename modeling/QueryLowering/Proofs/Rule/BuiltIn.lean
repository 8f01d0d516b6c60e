import QueryLowering.Rule.Call
import QueryLowering.Rule.Member

/-!
# What the built-in rules give

For every rule there is one equivalence: when it does not decline, and which
expression it gives then.
-/

namespace QueryLowering

theorem Lowered.sql?_eq_some_iff (result : Lowered) (node : Sql.Node) :
    result.sql? = some node ↔ result = .sql node := by
  cases result <;> simp [sql?]

theorem MemberUse.innerSql?_eq_some_iff (use : MemberUse) (node : Sql.Node) :
    use.innerSql? = some node ↔ use.inner = some (.sql node) := by
  simp [innerSql?, Option.bind_eq_some_iff, Lowered.sql?_eq_some_iff]

namespace CallUse

/-- The only argument is SQL when it is the only one and SQL. -/
theorem onlyArgumentSql?_eq_some_iff (use : CallUse) (node : Sql.Node) :
    use.onlyArgumentSql? = some node ↔
      ∃ argument, use.arguments = [argument] ∧ argument.sql? = some node := by
  unfold onlyArgumentSql?
  split
  · next argument known => simp [known]
  · next notOne =>
      constructor
      · rintro ⟨⟩
      · rintro ⟨argument, known, _⟩
        exact absurd known (notOne argument)

theorem targetSql?_eq_some_iff (use : CallUse) (node : Sql.Node) :
    use.targetSql? = some node ↔ use.target = some (.sql node) := by
  simp [targetSql?, Option.bind_eq_some_iff, Lowered.sql?_eq_some_iff]

theorem argumentsSql?_eq_some_iff (use : CallUse) (nodes : List Sql.Node) :
    use.argumentsSql? = some nodes ↔ use.arguments = nodes.map .sql := by
  unfold argumentsSql?
  generalize use.arguments = arguments
  induction arguments generalizing nodes with
  | nil => simp [eq_comm]
  | cons first rest inductionHypothesis =>
      simp only [List.mapM_cons, Option.bind_eq_bind, Option.bind_eq_some_iff,
        Option.pure_def, Option.some.injEq, Lowered.sql?_eq_some_iff,
        inductionHypothesis]
      constructor
      · rintro ⟨node, rfl, others, rfl, rfl⟩
        rfl
      · intro known
        cases nodes with
        | nil => cases known
        | cons node others =>
            obtain ⟨rfl, rfl⟩ := List.cons.inj known
            exact ⟨node, rfl, others, rfl, rfl⟩

/-- The nodes of arguments that are all SQL are those of the arguments. -/
theorem sql?_of_mem_argumentsSql?
    {use : CallUse}
    {nodes : List Sql.Node}
    {node : Sql.Node}
    (known : use.argumentsSql? = some nodes)
    (member : node ∈ nodes) :
    ∃ argument, argument ∈ use.arguments ∧ argument.sql? = some node := by
  rw [(use.argumentsSql?_eq_some_iff nodes).1 known]
  exact ⟨.sql node, List.mem_map_of_mem member, rfl⟩

end CallUse

namespace Rule

theorem hasValue_eq_some_iff (use : MemberUse) (node : Sql.Node) :
    hasValue use = some node ↔
      use.member.declaringType.nullable = true ∧ use.member.name = "has_value" ∧
        ∃ inner, use.innerSql? = some inner ∧ .nullTest inner true = node := by
  simp [hasValue, and_assoc]

theorem stringLength_eq_some_iff (use : MemberUse) (node : Sql.Node) :
    stringLength use = some node ↔
      use.member.declaringType.kind = .string ∧ use.member.name = "length" ∧
        ∃ inner, use.innerSql? = some inner ∧
          .function "LENGTH" [inner]
              (use.member.valueType.withNullability inner.valueType.nullable) =
            node := by
  simp [stringLength, and_assoc]

theorem dateTimeMember_eq_some_iff (use : MemberUse) (node : Sql.Node) :
    dateTimeMember use = some node ↔
      use.member.declaringType.kind = .dateTime ∧
        (use.inner = none ∧ use.member.name = "now" ∧
            .fragment "CURRENT_TIMESTAMP" .dateTime = node ∨
          ∃ keyword operand, dateParts.lookup use.member.name = some keyword ∧
            use.innerSql? = some operand ∧
            .function "EXTRACT" [.fragment keyword .string, operand]
                (use.member.valueType.withNullability
                  operand.valueType.nullable) =
              node) := by
  unfold dateTimeMember
  split
  · next ofTime =>
      have kindKnown : use.member.declaringType.kind = .dateTime := by
        simpa using ofTime
      cases known : use.inner with
      | none => simp [kindKnown, MemberUse.innerSql?, known]
      | some inner =>
          simp only [kindKnown, MemberUse.innerSql?, known, reduceCtorEq,
            false_and, false_or, true_and, Option.bind_some]
          split
          · next keyword operand keywordKnown operandKnown =>
              simp [keywordKnown, operandKnown]
          · next declined =>
              constructor
              · rintro ⟨⟩
              · rintro ⟨keyword, operand, keywordKnown, operandKnown, _⟩
                exact (declined keyword operand keywordKnown operandKnown).elim
  · next notOfTime =>
      have otherKind : use.member.declaringType.kind ≠ .dateTime := by
        simpa using notOfTime
      simp [otherKind]

theorem equals_eq_some_iff (use : CallUse) (node : Sql.Node) :
    equals use = some node ↔
      use.method.kind = .instanceMethod ∧ use.method.name = "equals" ∧
        ∃ left right, use.targetSql? = some left ∧
          use.onlyArgumentSql? = some right ∧
          .binary .equal left right .boolean = node := by
  unfold equals
  split
  · next named =>
      simp only [Bool.and_eq_true, beq_iff_eq] at named
      simp only [named.1, named.2, true_and]
      split
      · next left right leftKnown rightKnown => simp [leftKnown, rightKnown]
      · next declined =>
          constructor
          · rintro ⟨⟩
          · rintro ⟨left, right, leftKnown, rightKnown, _⟩
            exact (declined left right leftKnown rightKnown).elim
  · next notNamed =>
      simp only [Bool.and_eq_true, beq_iff_eq, not_and] at notNamed
      constructor
      · rintro ⟨⟩
      · rintro ⟨ofInstance, named, _⟩
        exact absurd named (notNamed ofInstance)

theorem stringSearch_eq_some_iff (use : CallUse) (node : Sql.Node) :
    stringSearch use = some node ↔
      use.method.kind = .instanceMethod ∧ use.method.declaringKind = .string ∧
        ∃ target text argument pattern, use.targetSql? = some target ∧
          use.onlyArgumentSql? = some argument ∧
          argument.literal? = some (.string text) ∧
          text.toList.any isWildcard = false ∧
          likePattern? use.method.name text = some pattern ∧
          .binary .like target (.constant (.string pattern) .string) .boolean =
            node := by
  unfold stringSearch
  split
  · next ofText =>
      simp only [Bool.and_eq_true, beq_iff_eq] at ofText
      simp only [ofText.1, ofText.2, true_and]
      split
      · next target text targetKnown textKnown =>
          obtain ⟨argument, argumentKnown, literalKnown⟩ :=
            Option.bind_eq_some_iff.1 textKnown
          cases wild : text.toList.any isWildcard with
          | true =>
              rw [if_pos rfl]
              simp [targetKnown, argumentKnown, literalKnown, wild,
                -List.any_eq_false]
          | false =>
              rw [if_neg (by simp)]
              simp [targetKnown, argumentKnown, literalKnown, wild,
                -List.any_eq_false]
      · next declined =>
          constructor
          · rintro ⟨⟩
          · rintro ⟨target, text, argument, _, targetKnown, argumentKnown,
              literalKnown, _⟩
            refine (declined target text targetKnown ?_).elim
            rw [argumentKnown]
            exact literalKnown
  · next notOfText =>
      simp only [Bool.and_eq_true, beq_iff_eq, not_and] at notOfText
      constructor
      · rintro ⟨⟩
      · rintro ⟨ofInstance, ofText, _⟩
        exact absurd ofText (notOfText ofInstance)

theorem functionCall_eq_some_iff (use : CallUse) (node : Sql.Node) :
    functionCall use = some node ↔
      ∃ function leading rest,
        SqlFunction.ofMethodName? use.method.name = some function ∧
        function.accepts use.method.kind use.method.declaringKind = true ∧
        leadingArguments? function use = some leading ∧
        use.argumentsSql? = some rest ∧
        .function function.functionName (function.adjust (leading ++ rest))
            (use.method.returnType.withNullability
              (use.method.returnType.nullable ||
                (leading ++ rest).any
                  fun argument => argument.valueType.nullable)) =
          node := by
  simp only [functionCall, Option.bind_eq_bind, Option.bind_eq_some_iff]
  constructor
  · rintro ⟨function, functionKnown, given⟩
    split at given
    · next accepted =>
        simp only [Option.bind_eq_some_iff, Option.some.injEq] at given
        obtain ⟨rest, restKnown, leading, leadingKnown, rfl⟩ := given
        exact ⟨function, leading, rest, functionKnown, accepted, leadingKnown,
          restKnown, rfl⟩
    · cases given
  · rintro ⟨function, leading, rest, functionKnown, accepted, leadingKnown,
      restKnown, rfl⟩
    refine ⟨function, functionKnown, ?_⟩
    simp only [if_pos accepted, Option.bind_eq_some_iff]
    exact ⟨rest, restKnown, leading, leadingKnown, rfl⟩

/-- The first match for a member is given by one of the rules. -/
theorem builtInMember_cases
    {use : MemberUse}
    {node : Sql.Node}
    (matched : firstMatch? builtInMembers use = some node) :
    hasValue use = some node ∨ stringLength use = some node ∨
      dateTimeMember use = some node := by
  obtain ⟨rule, member, given⟩ := List.exists_of_findSome?_eq_some matched
  simp only [builtInMembers, List.mem_cons, List.not_mem_nil,
    or_false] at member
  rcases member with rfl | rfl | rfl
  · exact .inl given
  · exact .inr (.inl given)
  · exact .inr (.inr given)

/-- The first match for a call is given by one of the rules. -/
theorem builtInCall_cases
    {use : CallUse}
    {node : Sql.Node}
    (matched : firstMatch? builtInCalls use = some node) :
    equals use = some node ∨ stringSearch use = some node ∨
      functionCall use = some node := by
  obtain ⟨rule, member, given⟩ := List.exists_of_findSome?_eq_some matched
  simp only [builtInCalls, List.mem_cons, List.not_mem_nil, or_false] at member
  rcases member with rfl | rfl | rfl
  · exact .inl given
  · exact .inr (.inl given)
  · exact .inr (.inr given)

/-- The arguments of a function are those of the method, or an integer, or one
of those plus one. -/
theorem SqlFunction.mem_adjust
    {function : SqlFunction}
    {arguments : List Sql.Node}
    {argument : Sql.Node}
    (member : argument ∈ function.adjust arguments) :
    argument ∈ arguments ∨ (∃ value, argument = integerNode value) ∨
      ∃ start, start ∈ arguments ∧
        argument = .binary .add start (integerNode 1) start.valueType := by
  unfold adjust at member
  split at member
  · next adjustment _ =>
      cases adjustment with
      | countFromOne =>
          match arguments, member with
          | [], member => exact .inl member
          | [_], member => exact .inl member
          | text :: start :: rest, member =>
              simp only [Adjustment.apply, List.mem_cons] at member
              rcases member with rfl | rfl | inRest
              · exact .inl (by simp)
              · exact .inr (.inr ⟨start, by simp, rfl⟩)
              · exact .inl (by simp [inRest])
      | zeroPlaces =>
          match arguments, member with
          | [], member => exact .inl member
          | [number], member =>
              simp only [Adjustment.apply, List.mem_cons, List.not_mem_nil,
                or_false] at member
              rcases member with rfl | isZero
              · exact .inl (by simp)
              · exact .inr (.inl ⟨0, isZero⟩)
          | _ :: _ :: _, member => exact .inl member
  · exact .inl member

/-- The arguments of a function are nullable only if some of those of the method
are. -/
theorem SqlFunction.nullable_of_mem_adjust
    {function : SqlFunction}
    {arguments : List Sql.Node}
    {argument : Sql.Node}
    (member : argument ∈ function.adjust arguments)
    (nullable : argument.valueType.nullable = true) :
    (arguments.any fun argument => argument.valueType.nullable) = true := by
  rcases mem_adjust member with isGiven | ⟨value, rfl⟩ | ⟨start, isGiven, rfl⟩
  · exact List.any_eq_true.2 ⟨argument, isGiven, nullable⟩
  · cases nullable
  · exact List.any_eq_true.2 ⟨start, isGiven, nullable⟩

end Rule
end QueryLowering
