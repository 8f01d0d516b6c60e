import QueryLowering.Proofs.Lowering.Attempt
import QueryLowering.Proofs.Tree

/-!
# Which results a query can have

The relation between a query and its result has one clause for each way in which
lowering can succeed, with all that the way requires. It holds exactly when the
attempt for the query gives the result, so that a statement about all results is
an induction over the clauses.

Parts are lowered each on its own. Where the clauses speak of several parts, the
results are paired with the parts in order.
-/

namespace QueryLowering

namespace Lowered

/-- The entity, if the result is one. -/
def entity? : Lowered → Option EntityRef
  | .shaper entity => some entity
  | _ => none

theorem entity?_eq_some_iff (result : Lowered) (entity : EntityRef) :
    result.entity? = some entity ↔ result = .shaper entity := by
  cases result <;> simp [entity?]

theorem entity?_eq_none_iff (result : Lowered) :
    result.entity? = none ↔ ∀ entity, result ≠ .shaper entity := by
  cases result <;> simp [entity?]

end Lowered

namespace Lowerer

/-- Each of as many values as there are inputs is paired with an input. -/
theorem exists_paired
    {inputs : List α}
    {values : List β}
    {value : β}
    (sameLength : inputs.length = values.length)
    (member : value ∈ values) :
    ∃ input, (input, value) ∈ inputs.zip values := by
  rw [← List.map_snd_zip (Nat.le_of_eq sameLength.symm)] at member
  obtain ⟨⟨input, _⟩, paired, rfl⟩ := List.mem_map.1 member
  exact ⟨input, paired⟩

/-- A query lowers to a result. -/
inductive Lowers (lowerer : Lowerer) (select : Select) : Query → Lowered → Prop
  | constant (value : Literal) (valueType : ValueType) :
      Lowers lowerer select (.constant value valueType)
        (.sql (.constant value valueType))
  | parameter (name : String) (valueType : ValueType) :
      Lowers lowerer select (.parameter name valueType)
        (.sql (.parameter name valueType))
  | shaper (entity : EntityRef) :
      Lowers lowerer select (.shaper entity) (.shaper entity)
  | staticMember (member : Member) :
      Lowers lowerer select (.access none member)
        (lowerer.applyRules lowerer.memberRules ⟨none, member⟩)
  /-- A member of an entity is bound. -/
  | boundMember {inner : Query} {entity : EntityRef} {member : Member}
      {result : Lowered} :
      Lowers lowerer select inner (.shaper entity) →
      (lowerer.bindProperty select entity member.name).result = .ok result →
      Lowers lowerer select (.access (some inner) member) result
  /-- The value of a nullable SQL expression is the expression itself. -/
  | nullableValue {inner : Query} {node : Sql.Node} {member : Member} :
      Lowers lowerer select inner (.sql node) →
      member.isNullableValue = true →
      Lowers lowerer select (.access (some inner) member)
        (.sql node.toNonNullable)
  /-- Any other member is left to the rules. -/
  | member {inner : Query} {value : Lowered} {member : Member} :
      Lowers lowerer select inner value →
      value.entity? = none →
      (value.sql?.isSome = true → member.isNullableValue = false) →
      Lowers lowerer select (.access (some inner) member)
        (lowerer.applyRules lowerer.memberRules ⟨some value, member⟩)
  /-- A property accessor on an entity binds the property, and nothing else of
  the call matters. -/
  | accessor
      {target : Option Query}
      {method : Method}
      {first : Query}
      {rest : List Query}
      {name : String}
      {entity : EntityRef}
      {result : Lowered} :
      accessedProperty? method (first :: rest) = some name →
      Lowers lowerer select first (.shaper entity) →
      (lowerer.bindProperty select entity name).result = .ok result →
      Lowers lowerer select (.call target method (first :: rest)) result
  /-- Any other call is left to the rules. -/
  | call
      {target : Option Query}
      {method : Method}
      {arguments : List Query}
      {targetValue : Option Lowered}
      {values : List Lowered} :
      target.isSome = targetValue.isSome →
      (∀ query value, target = some query → targetValue = some value →
        Lowers lowerer select query value) →
      arguments.length = values.length →
      (∀ pair, pair ∈ arguments.zip values →
        Lowers lowerer select pair.1 pair.2) →
      ((accessedProperty? method arguments).isSome = true →
        values.head?.bind Lowered.entity? = none) →
      Lowers lowerer select (.call target method arguments)
        (lowerer.applyRules lowerer.callRules ⟨targetValue, method, values⟩)
  | binary
      {op : Query.BinaryOp}
      {left right : Query}
      {method : Option Method}
      {valueType : ValueType}
      {leftValue rightValue result : Lowered} :
      Lowers lowerer select left leftValue →
      Lowers lowerer select right rightValue →
      Lowering.binary lowerer.mappings op method valueType leftValue
          rightValue =
        .ok result →
      Lowers lowerer select (.binary op left right method valueType) result
  | unary
      {op : Query.UnaryOp}
      {operand : Query}
      {valueType : ValueType}
      {value : Lowered} :
      Lowers lowerer select operand value →
      Lowers lowerer select (.unary op operand valueType)
        (Lowering.unary lowerer.mappings op valueType value)
  | construction
      {typeName : String}
      {members : List String}
      {arguments : List Query}
      {values : List Lowered} :
      members ≠ [] →
      members.length = arguments.length →
      arguments.length = values.length →
      (∀ pair, pair ∈ arguments.zip values →
        Lowers lowerer select pair.1 pair.2) →
      (∀ value, value ∈ values → value.isComplete = true) →
      Lowers lowerer select (.construction typeName members arguments)
        (.projection (lowerer.fields members values))
  /-- The first argument that is not complete ends the construction. -/
  | incompleteArgument
      {typeName : String}
      {members : List String}
      {before after : List Query}
      {argument : Query}
      {values : List Lowered}
      {value : Lowered} :
      members.length = (before ++ argument :: after).length →
      before.length = values.length →
      (∀ pair, pair ∈ before.zip values → Lowers lowerer select pair.1 pair.2) →
      (∀ value, value ∈ values → value.isComplete = true) →
      Lowers lowerer select argument value →
      value.isComplete = false →
      Lowers lowerer select
        (.construction typeName members (before ++ argument :: after))
        .unsupported
  /-- Without members, or with another number of arguments, no object is
  constructed. -/
  | noConstruction {typeName : String} {members : List String}
      {arguments : List Query} :
      members = [] ∨ members.length ≠ arguments.length →
      Lowers lowerer select (.construction typeName members arguments)
        .unsupported
  | extension {name : String} {children : List Query} {values : List Lowered} :
      children.length = values.length →
      (∀ pair, pair ∈ children.zip values →
        Lowers lowerer select pair.1 pair.2) →
      Lowers lowerer select (.extension name children) (.extension name values)

variable (lowerer : Lowerer) (select : Select)

theorem visitAll_eq_map (queries : List Query) :
    lowerer.visitAll select queries = queries.map (lowerer.visit select) := by
  induction queries with
  | nil => rfl
  | cons query rest inductionHypothesis => simp [visitAll, inductionHypothesis]

theorem yield_visitAll_iff (queries : List Query) (values : List Lowered) :
    Attempt.Yield (lowerer.visitAll select queries) values ↔
      queries.length = values.length ∧
        ∀ pair, pair ∈ queries.zip values →
          (lowerer.visit select pair.1).result = .ok pair.2 := by
  rw [visitAll_eq_map, Attempt.yield_map_iff]

theorem result_visitInner_eq_ok_iff
    (inner : Option Query)
    (value : Option Lowered) :
    (lowerer.visitInner select inner).result = .ok value ↔
      inner.isSome = value.isSome ∧
        ∀ query result, inner = some query → value = some result →
          (lowerer.visit select query).result = .ok result := by
  cases inner with
  | none => cases value <;> simp [visitInner]
  | some query =>
      rw [visitInner, Attempt.result_bind_eq_ok_iff]
      cases value with
      | none => simp
      | some result => simp

/-- What a member of a lowered expression can give. -/
theorem result_lowerMember_eq_ok_iff
    (member : Member)
    (value result : Lowered) :
    (lowerer.lowerMember select member (some value)).result = .ok result ↔
      (∃ entity, value = .shaper entity ∧
        (lowerer.bindProperty select entity member.name).result = .ok result) ∨
      (∃ node, value = .sql node ∧ member.isNullableValue = true ∧
        .sql node.toNonNullable = result) ∨
      (value.entity? = none ∧
        (value.sql?.isSome = true → member.isNullableValue = false) ∧
        lowerer.applyRules lowerer.memberRules ⟨some value, member⟩ =
          result) := by
  cases value with
  | shaper entity => simp [lowerMember, Lowered.entity?]
  | sql node =>
      cases isValue : member.isNullableValue with
      | true => simp [lowerMember, isValue, Lowered.entity?, Lowered.sql?]
      | false => simp [lowerMember, isValue, Lowered.entity?, Lowered.sql?]
  | convert operand target => simp [lowerMember, Lowered.entity?, Lowered.sql?]
  | projection fields => simp [lowerMember, Lowered.entity?, Lowered.sql?]
  | extension name children => simp [lowerMember, Lowered.entity?, Lowered.sql?]
  | unsupported => simp [lowerMember, Lowered.entity?, Lowered.sql?]

/-- A member of a lowered expression gives what the member gives of its
value. -/
theorem result_visit_access
    {inner : Query}
    {member : Member}
    {value result : Lowered}
    (innerGiven : (lowerer.visit select inner).result = .ok value)
    (given :
      (lowerer.lowerMember select member (some value)).result = .ok result) :
    (lowerer.visit select (.access (some inner) member)).result =
      .ok result := by
  rw [visit, Attempt.result_bind_eq_ok_iff]
  refine ⟨some value, ?_, given⟩
  rw [result_visitInner_eq_ok_iff]
  refine ⟨rfl, ?_⟩
  rintro _ _ ⟨⟩ ⟨⟩
  exact innerGiven

/-- What the rules can make of a call. -/
theorem result_lowerRuleCall_eq_ok_iff
    (method : Method)
    (target : Attempt (Option Lowered))
    (lowered : List Lowered)
    (arguments : List (Attempt Lowered))
    (result : Lowered) :
    (lowerer.lowerRuleCall method target lowered arguments).result =
        .ok result ↔
      ∃ targetValue values, target.result = .ok targetValue ∧
        Attempt.Yield arguments values ∧
        lowerer.applyRules lowerer.callRules
          ⟨targetValue, method, lowered ++ values⟩ = result := by
  simp only [lowerRuleCall, Attempt.result_bind_eq_ok_iff,
    Attempt.result_sequence_eq_ok_iff, Attempt.result_pure, Except.ok.injEq]
  constructor
  · rintro ⟨targetValue, targetGiven, values, yielded, decided⟩
    exact ⟨targetValue, values, targetGiven, yielded, decided⟩
  · rintro ⟨targetValue, values, targetGiven, yielded, decided⟩
    exact ⟨targetValue, targetGiven, values, yielded, decided⟩

/-- What a call can give: a property of the entity that its accessor reads, or
what the rules make of it. -/
theorem result_lowerCall_eq_ok_iff
    (method : Method)
    (accessed : Option String)
    (target : Attempt (Option Lowered))
    (arguments : List (Attempt Lowered))
    (result : Lowered) :
    (lowerer.lowerCall select method accessed target arguments).result =
        .ok result ↔
      (∃ name first rest entity, accessed = some name ∧
        arguments = first :: rest ∧
        first.result = .ok (.shaper entity) ∧
        (lowerer.bindProperty select entity name).result = .ok result) ∨
      (∃ targetValue values, target.result = .ok targetValue ∧
        Attempt.Yield arguments values ∧
        (accessed.isSome = true → values.head?.bind Lowered.entity? = none) ∧
        lowerer.applyRules lowerer.callRules ⟨targetValue, method, values⟩ =
          result) := by
  cases accessed with
  | none => simp [lowerCall, result_lowerRuleCall_eq_ok_iff]
  | some name =>
      cases arguments with
      | nil => simp [lowerCall, result_lowerRuleCall_eq_ok_iff]
      | cons first rest =>
          rw [lowerCall, Attempt.result_bind_eq_ok_iff]
          constructor
          · rintro ⟨value, firstGiven, given⟩
            split at given
            · exact .inl ⟨name, first, rest, _, rfl, rfl, firstGiven, given⟩
            · next notEntity =>
                obtain ⟨targetValue, values, targetGiven, yielded, decided⟩ :=
                  (lowerer.result_lowerRuleCall_eq_ok_iff _ _ _ _ _).1 given
                refine .inr
                  ⟨targetValue, value :: values, targetGiven, ?_, ?_, decided⟩
                · exact (Attempt.yield_cons_iff _ _ _).2
                    ⟨value, values, firstGiven, yielded, rfl⟩
                · intro _
                  simpa using (Lowered.entity?_eq_none_iff value).2 notEntity
          · rintro (⟨_, _, _, entity, ⟨⟩, ⟨⟩, firstGiven, bound⟩ |
              ⟨targetValue, values, targetGiven, yielded, notEntity, decided⟩)
            · exact ⟨.shaper entity, firstGiven, bound⟩
            · obtain ⟨value, others, firstGiven, remaining, rfl⟩ :=
                (Attempt.yield_cons_iff _ _ _).1 yielded
              refine ⟨value, firstGiven, ?_⟩
              split
              · simp [Lowered.entity?] at notEntity
              · exact (lowerer.result_lowerRuleCall_eq_ok_iff _ _ _ _ _).2
                  ⟨targetValue, others, targetGiven, remaining, decided⟩

/-- What a constructed object can give. -/
theorem result_lowerConstruction_eq_ok_iff
    (members : List String)
    (arguments : List (Attempt Lowered))
    (result : Lowered) :
    (lowerer.lowerConstruction members arguments).result = .ok result ↔
      ((members = [] ∨ members.length ≠ arguments.length) ∧
        .unsupported = result) ∨
      (members ≠ [] ∧ members.length = arguments.length ∧
        ((∃ values, Attempt.Yield arguments values ∧
          (∀ value, value ∈ values → value.isComplete = true) ∧
          .projection (lowerer.fields members values) = result) ∨
        (∃ before argument after values value,
          arguments = before ++ argument :: after ∧
          Attempt.Yield before values ∧
          (∀ value, value ∈ values → value.isComplete = true) ∧
          argument.result = .ok value ∧ value.isComplete = false ∧
          .unsupported = result))) := by
  by_cases constructed : members ≠ [] ∧ members.length = arguments.length
  · obtain ⟨nonempty, sameLength⟩ := constructed
    rw [lowerConstruction, if_neg (by simp [nonempty, sameLength]),
      Attempt.result_bind_eq_ok_iff]
    simp only [
      lowerer.result_lowerFields_eq_ok_iff members arguments sameLength,
      nonempty, sameLength, ne_eq, not_true_eq_false, or_self, false_and,
      false_or, not_false_eq_true, true_and]
    constructor
    · rintro ⟨outcome, ⟨values, yielded, complete, rfl⟩ |
        ⟨before, argument, after, values, value, split, yielded, complete,
          stopped, incomplete, rfl⟩, given⟩
      · exact .inl ⟨values, yielded, complete, by simpa using given⟩
      · exact .inr ⟨before, argument, after, values, value, split, yielded,
          complete, stopped, incomplete, by simpa using given⟩
    · rintro (⟨values, yielded, complete, rfl⟩ |
        ⟨before, argument, after, values, value, split, yielded, complete,
          stopped, incomplete, rfl⟩)
      · exact ⟨_, .inl ⟨values, yielded, complete, rfl⟩, rfl⟩
      · exact ⟨_, .inr ⟨before, argument, after, values, value, split, yielded,
            complete, stopped, incomplete, rfl⟩, rfl⟩
  · have notConstructed : members = [] ∨ members.length ≠ arguments.length := by
      by_contra neither
      exact constructed (not_or.1 neither |>.imp id not_not.1)
    rw [lowerConstruction, if_pos (by simpa using notConstructed)]
    simp only [Attempt.result_pure, Except.ok.injEq, notConstructed, true_and]
    constructor
    · exact Or.inl
    · rintro (unsupported | ⟨nonempty, sameLength, _⟩)
      · exact unsupported
      · exact absurd ⟨nonempty, sameLength⟩ constructed

/-- A constructed object whose arguments all give values. -/
theorem result_lowerConstruction_of_yield
    {arguments : List (Attempt Lowered)}
    {values : List Lowered}
    (members : List String)
    (yielded : Attempt.Yield arguments values) :
    (lowerer.lowerConstruction members arguments).result = .ok
      (if members ≠ [] ∧ members.length = arguments.length ∧
          ∀ value, value ∈ values → value.isComplete = true
        then .projection (lowerer.fields members values)
        else .unsupported) := by
  rw [result_lowerConstruction_eq_ok_iff]
  by_cases nonempty : members = []
  · exact .inl ⟨.inl nonempty, by rw [if_neg (by simp [nonempty])]⟩
  by_cases sameLength : members.length = arguments.length
  · refine .inr ⟨nonempty, sameLength, ?_⟩
    by_cases complete : ∀ value, value ∈ values → value.isComplete = true
    · exact .inl ⟨values, yielded, complete,
        by rw [if_pos ⟨nonempty, sameLength, complete⟩]⟩
    · right
      -- the first value that is not complete
      have found :
          (values.find? fun value => !value.isComplete).isSome = true := by
        simpa using complete
      obtain ⟨value, known⟩ := Option.isSome_iff_exists.1 found
      obtain ⟨incomplete, before, after, rfl, beforeComplete⟩ :=
        List.find?_eq_some_iff_append.1 known
      obtain ⟨earlier, argument, later, split, earlierYielded, given⟩ :=
        yielded.split
      exact ⟨earlier, argument, later, before, value, split, earlierYielded,
        by simpa using beforeComplete, given, by simpa using incomplete,
        by rw [if_neg (fun constructed => complete constructed.2.2)]⟩
  · exact .inl ⟨.inr sameLength,
      by rw [if_neg (fun constructed => sameLength constructed.2.1)]⟩

/-- The result of an attempt for a query is one that the query lowers to. -/
theorem lowers_of_result_visit
    (query : Query)
    (result : Lowered)
    (given : (lowerer.visit select query).result = .ok result) :
    lowerer.Lowers select query result := by
  induction query using Query.induct generalizing result with
  | access inner member innerHypothesis =>
      rw [visit, Attempt.result_bind_eq_ok_iff] at given
      obtain ⟨value, innerGiven, given⟩ := given
      rw [result_visitInner_eq_ok_iff] at innerGiven
      obtain ⟨sameShape, innerGiven⟩ := innerGiven
      cases inner with
      | none =>
          obtain rfl : value = none := by simpa using sameShape.symm
          obtain rfl := Except.ok.inj given
          exact .staticMember member
      | some query =>
          obtain ⟨value, rfl⟩ :=
            Option.isSome_iff_exists.1 (by simpa using sameShape.symm)
          have lowered :=
            innerHypothesis query rfl value (innerGiven query value rfl rfl)
          rcases (lowerer.result_lowerMember_eq_ok_iff select member value
            result).1 given with
            ⟨entity, rfl, bound⟩ | ⟨node, rfl, isValue, rfl⟩ |
              ⟨notEntity, notValue, rfl⟩
          · exact .boundMember lowered bound
          · exact .nullableValue lowered isValue
          · exact .member lowered notEntity notValue
  | call target method arguments targetHypothesis argumentsHypothesis =>
      rw [visit, result_lowerCall_eq_ok_iff] at given
      rcases given with
        ⟨name, first, rest, entity, accessed, split, firstGiven, bound⟩ |
        ⟨targetValue, values, targetGiven, yielded, notEntity, rfl⟩
      · rw [visitAll_eq_map] at split
        obtain ⟨firstQuery, restQueries, rfl, rfl, _⟩ :=
          List.map_eq_cons_iff.1 split
        exact .accessor accessed
          (argumentsHypothesis firstQuery (by simp) _ firstGiven) bound
      · obtain ⟨sameShape, targetGiven⟩ :=
          (lowerer.result_visitInner_eq_ok_iff select target targetValue).1
            targetGiven
        obtain ⟨sameLength, argumentsGiven⟩ :=
          (lowerer.yield_visitAll_iff select arguments values).1 yielded
        refine .call sameShape ?_ sameLength ?_ notEntity
        · intro query value present valuePresent
          exact targetHypothesis query present value
            (targetGiven query value present valuePresent)
        · intro pair paired
          exact argumentsHypothesis pair.1 (List.of_mem_zip paired).1 pair.2
            (argumentsGiven pair paired)
  | binary op left right method valueType leftHypothesis rightHypothesis =>
      simp only [visit, Attempt.result_bind_eq_ok_iff,
        Attempt.result_ofExcept] at given
      obtain ⟨leftValue, leftGiven, rightValue, rightGiven, combined⟩ := given
      exact .binary (leftHypothesis leftValue leftGiven)
        (rightHypothesis rightValue rightGiven) combined
  | unary op operand valueType inductionHypothesis =>
      simp only [visit, Attempt.result_bind_eq_ok_iff,
        Attempt.result_pure] at given
      obtain ⟨value, operandGiven, ⟨⟩⟩ := given
      exact .unary (inductionHypothesis value operandGiven)
  | constant value valueType =>
      obtain rfl := Except.ok.inj given
      exact .constant value valueType
  | parameter name valueType =>
      obtain rfl := Except.ok.inj given
      exact .parameter name valueType
  | construction typeName members arguments inductionHypothesis =>
      rw [visit, result_lowerConstruction_eq_ok_iff, visitAll_eq_map,
        List.length_map] at given
      rcases given with ⟨notConstructed, rfl⟩ |
        ⟨nonempty, sameLength, ⟨values, yielded, complete, rfl⟩ |
          ⟨before, argument, after, values, value, split, yielded, complete,
            stopped, incomplete, rfl⟩⟩
      · exact .noConstruction notConstructed
      · obtain ⟨sameCount, given⟩ := (Attempt.yield_map_iff _ _ _).1 yielded
        refine .construction nonempty sameLength sameCount ?_ complete
        intro pair paired
        exact inductionHypothesis pair.1 (List.of_mem_zip paired).1 pair.2
          (given pair paired)
      · obtain ⟨beforeQueries, rest, rfl, rfl, restSplit⟩ :=
          List.map_eq_append_iff.1 split
        obtain ⟨query, afterQueries, rfl, rfl, _⟩ :=
          List.map_eq_cons_iff.1 restSplit
        obtain ⟨sameCount, given⟩ := (Attempt.yield_map_iff _ _ _).1 yielded
        refine .incompleteArgument sameLength sameCount ?_ complete ?_
          incomplete
        · intro pair paired
          exact inductionHypothesis pair.1
            (List.mem_append_left _ (List.of_mem_zip paired).1) pair.2
            (given pair paired)
        · exact inductionHypothesis query (by simp) value stopped
  | shaper entity =>
      obtain rfl := Except.ok.inj given
      exact .shaper entity
  | extension name children inductionHypothesis =>
      simp only [visit, Attempt.result_bind_eq_ok_iff,
        Attempt.result_sequence_eq_ok_iff, Attempt.result_pure] at given
      obtain ⟨values, yielded, ⟨⟩⟩ := given
      obtain ⟨sameLength, given⟩ :=
        (lowerer.yield_visitAll_iff select children values).1 yielded
      refine .extension sameLength ?_
      intro pair paired
      exact inductionHypothesis pair.1 (List.of_mem_zip paired).1 pair.2
        (given pair paired)

/-- What a query lowers to is the result of the attempt for it. -/
theorem Lowers.result_visit
    {lowerer : Lowerer}
    {select : Select}
    {query : Query}
    {result : Lowered}
    (lowered : lowerer.Lowers select query result) :
    (lowerer.visit select query).result = .ok result := by
  induction lowered with
  | constant value valueType => rfl
  | parameter name valueType => rfl
  | shaper entity => rfl
  | staticMember member => rfl
  | boundMember _ bound inductionHypothesis =>
      exact lowerer.result_visit_access select inductionHypothesis
        ((lowerer.result_lowerMember_eq_ok_iff select _ _ _).2
          (.inl ⟨_, rfl, bound⟩))
  | nullableValue _ isValue inductionHypothesis =>
      exact lowerer.result_visit_access select inductionHypothesis
        ((lowerer.result_lowerMember_eq_ok_iff select _ _ _).2
          (.inr (.inl ⟨_, rfl, isValue, rfl⟩)))
  | member _ notEntity notValue inductionHypothesis =>
      exact lowerer.result_visit_access select inductionHypothesis
        ((lowerer.result_lowerMember_eq_ok_iff select _ _ _).2
          (.inr (.inr ⟨notEntity, notValue, rfl⟩)))
  | accessor accessed _ bound inductionHypothesis =>
      rw [visit, accessed, result_lowerCall_eq_ok_iff]
      exact .inl ⟨_, _, _, _, rfl, rfl, inductionHypothesis, bound⟩
  | call sameShape _ sameLength _ notEntity targetHypothesis
      argumentsHypothesis =>
      rw [visit, result_lowerCall_eq_ok_iff]
      exact .inr ⟨_, _,
        (lowerer.result_visitInner_eq_ok_iff select _ _).2
          ⟨sameShape, targetHypothesis⟩,
        (lowerer.yield_visitAll_iff select _ _).2
          ⟨sameLength, argumentsHypothesis⟩, notEntity, rfl⟩
  | binary _ _ combined leftHypothesis rightHypothesis =>
      simp only [visit, Attempt.result_bind_eq_ok_iff, Attempt.result_ofExcept]
      exact ⟨_, leftHypothesis, _, rightHypothesis, combined⟩
  | unary _ inductionHypothesis =>
      simp only [visit, Attempt.result_bind_eq_ok_iff, Attempt.result_pure]
      exact ⟨_, inductionHypothesis, rfl⟩
  | construction nonempty sameLength sameCount _ complete argumentsHypothesis =>
      rw [visit, result_lowerConstruction_eq_ok_iff, visitAll_eq_map,
        List.length_map]
      exact .inr ⟨nonempty, sameLength, .inl ⟨_,
        (Attempt.yield_map_iff _ _ _).2 ⟨sameCount, argumentsHypothesis⟩,
        complete, rfl⟩⟩
  | incompleteArgument sameLength sameCount _ complete _ incomplete
      beforeHypothesis argumentHypothesis =>
      rw [visit, result_lowerConstruction_eq_ok_iff, visitAll_eq_map,
        List.length_map]
      refine .inr ⟨?_, sameLength, .inr ⟨_, _, _, _, _, List.map_append,
        (Attempt.yield_map_iff _ _ _).2 ⟨sameCount, beforeHypothesis⟩, complete,
        argumentHypothesis, incomplete, rfl⟩⟩
      rintro rfl
      simp at sameLength
  | noConstruction notConstructed =>
      rw [visit, result_lowerConstruction_eq_ok_iff, visitAll_eq_map,
        List.length_map]
      exact .inl ⟨notConstructed, rfl⟩
  | extension sameLength _ inductionHypothesis =>
      simp only [visit, Attempt.result_bind_eq_ok_iff,
        Attempt.result_sequence_eq_ok_iff, Attempt.result_pure]
      exact ⟨_, (lowerer.yield_visitAll_iff select _ _).2
          ⟨sameLength, inductionHypothesis⟩, rfl⟩

/-- The attempt for a query gives exactly the results that the query lowers
to. -/
theorem result_visit_eq_ok_iff (query : Query) (result : Lowered) :
    (lowerer.visit select query).result = .ok result ↔
      lowerer.Lowers select query result :=
  ⟨lowerer.lowers_of_result_visit select query result, Lowers.result_visit⟩

/-- Lowering refuses a query that is too deep, and else finishes what the
attempt for it gives. -/
theorem lower_eq (query : Query) (requireCondition : Bool) :
    (lowerer.lower select query requireCondition).1 =
      if lowerer.settings.maxDepth.toNat < query.depth then
        .error (.tooDeep lowerer.settings.maxDepth)
      else
        (lowerer.visit select query).result.map
          (lowerer.finish requireCondition) := by
  rw [lower]
  split <;> rfl

/-- A query that is not too deep gives what the attempt for it gives,
finished. -/
theorem lower_of_shallow
    {query : Query}
    (requireCondition : Bool)
    (shallow : query.depth ≤ lowerer.settings.maxDepth.toNat) :
    lowerer.lower select query requireCondition =
      ((lowerer.visit select query).result.map
          (lowerer.finish requireCondition),
        select.noteColumns (lowerer.visit select query).columns) := by
  rw [lower, if_neg (Nat.not_lt.2 shallow)]

/-- A query that is not too deep lowers to what it lowers to in place,
finished. -/
theorem lower_eq_ok_iff
    (query : Query)
    (requireCondition : Bool)
    (result : Lowered) :
    (lowerer.lower select query requireCondition).1 = .ok result ↔
      query.depth ≤ lowerer.settings.maxDepth.toNat ∧
        ∃ raw, lowerer.Lowers select query raw ∧
          lowerer.finish requireCondition raw = result := by
  rw [lower_eq]
  by_cases tooDeep : lowerer.settings.maxDepth.toNat < query.depth
  · simp [tooDeep, Nat.not_le.2 tooDeep]
  · simp only [if_neg tooDeep, Nat.not_lt.1 tooDeep, true_and,
      ← result_visit_eq_ok_iff]
    cases (lowerer.visit select query).result <;> simp [Except.map]

/-- A query lowers to SQL when the attempt for it gives SQL, which then receives
its mappings. -/
theorem lower_eq_sql_iff (query : Query) (node : Sql.Node) :
    (lowerer.lower select query false).1 = .ok (.sql node) ↔
      query.depth ≤ lowerer.settings.maxDepth.toNat ∧
        ∃ raw, (lowerer.visit select query).result = .ok (.sql raw) ∧
          raw.infer lowerer.mappings = node := by
  rw [lower_eq_ok_iff]
  refine and_congr_right fun _ => ?_
  constructor
  · rintro ⟨result, lowered, finished⟩
    cases result with
    | sql raw => exact ⟨raw, lowered.result_visit, Lowered.sql.inj finished⟩
    | _ => cases finished
  · rintro ⟨raw, given, rfl⟩
    exact ⟨.sql raw, (lowerer.result_visit_eq_ok_iff select query _).1 given,
      rfl⟩

end Lowerer
end QueryLowering
