import QueryLowering.Proofs.Lowering.Columns
import QueryLowering.Proofs.Lowering.Invariant
import QueryLowering.Proofs.Rule.Operands

/-!
# Complete results

With the built-in rules, a complete result determines the whole attempt that
gives it: the attempt binds the columns that occur in the result, in this order,
and nothing else. The built-in rules take every part of a use as SQL, so that no
part of the query is lowered in vain. Rules that come after them are never asked
where the result is complete, and the attempt is the same with or without them.

The target of a static method is the one part that a rule leaves out, so such
methods are assumed to have none.
-/

namespace QueryLowering

/-- A call of a static method has no target. -/
def Query.HasNoStaticTarget : Query → Prop
  | .call target method _ => method.kind = .staticMethod → target = none
  | _ => True

namespace Lowerer

/-- The lowerer with further rules, which are tried after its own. -/
def withFurtherRules
    (lowerer : Lowerer)
    (memberRules : List (Rule MemberUse))
    (callRules : List (Rule CallUse)) :
    Lowerer :=
  { lowerer with
    memberRules := lowerer.memberRules ++ memberRules
    callRules := lowerer.callRules ++ callRules }

@[simp] theorem withFurtherRules_nil (lowerer : Lowerer) :
    lowerer.withFurtherRules [] [] = lowerer := by
  simp [withFurtherRules]

variable {lowerer : Lowerer} {select : Select}

/-- Rules that come later do not matter where one matches. -/
theorem applyRules_append
    (lowerer : Lowerer)
    {rules : List (Rule α)}
    {use : α}
    {node : Sql.Node}
    (further : List (Rule α))
    (matched : Rule.firstMatch? rules use = some node) :
    lowerer.applyRules (rules ++ further) use =
      .sql (node.infer lowerer.mappings) := by
  have matchedFirst : Rule.firstMatch? (rules ++ further) use = some node := by
    unfold Rule.firstMatch? at matched ⊢
    rw [List.findSome?_append, matched]
    rfl
  simp [applyRules, matchedFirst]

/-- Rules that give a complete result have a match. -/
theorem firstMatch?_of_isComplete
    {rules : List (Rule α)}
    {use : α}
    (complete : (lowerer.applyRules rules use).isComplete = true) :
    ∃ node, Rule.firstMatch? rules use = some node ∧
      lowerer.applyRules rules use = .sql (node.infer lowerer.mappings) := by
  rcases lowerer.applyRules_cases rules use with nothing | matched
  · rw [nothing] at complete
    cases complete
  · exact matched

/-- What the built-in rules give for a member, if it is complete, is SQL over
SQL with the same columns, and further rules do not change it. -/
theorem applyRules_member_of_isComplete
    (builtIn : lowerer.HasBuiltInRules)
    (memberRules : List (Rule MemberUse))
    {use : MemberUse}
    (complete :
      (lowerer.applyRules lowerer.memberRules use).isComplete = true) :
    lowerer.applyRules (lowerer.memberRules ++ memberRules) use =
        lowerer.applyRules lowerer.memberRules use ∧
      (lowerer.applyRules lowerer.memberRules use).columns =
        use.inner.toList.flatMap Lowered.columns ∧
      ∀ inner, use.inner = some inner → ∃ node, inner = .sql node := by
  obtain ⟨node, matched, given⟩ := firstMatch?_of_isComplete complete
  have sameResult := lowerer.applyRules_append memberRules matched
  rw [builtIn.members] at matched
  rw [given, sameResult]
  rcases Rule.operands_of_builtInMember matched with
    ⟨absent, noColumns⟩ | ⟨inner, present, sameColumns⟩
  · refine ⟨rfl, by simp [absent, noColumns], ?_⟩
    intro inner present
    rw [absent] at present
    cases present
  · refine ⟨rfl, by simp [present, sameColumns], ?_⟩
    intro other known
    rw [present] at known
    exact ⟨inner, (Option.some.inj known).symm⟩

/-- What the built-in rules give for a call, if it is complete, is SQL over SQL
with the same columns, and further rules do not change it. -/
theorem applyRules_call_of_isComplete
    (builtIn : lowerer.HasBuiltInRules)
    (callRules : List (Rule CallUse))
    {use : CallUse}
    (bare : use.method.kind = .staticMethod → use.target = none)
    (complete : (lowerer.applyRules lowerer.callRules use).isComplete = true) :
    lowerer.applyRules (lowerer.callRules ++ callRules) use =
        lowerer.applyRules lowerer.callRules use ∧
      (lowerer.applyRules lowerer.callRules use).columns =
        use.parts.flatMap Lowered.columns ∧
      use.method.kind ≠ .propertyAccessor ∧
      ∀ part, part ∈ use.parts → ∃ node, part = .sql node := by
  obtain ⟨node, matched, given⟩ := firstMatch?_of_isComplete complete
  have sameResult := lowerer.applyRules_append callRules matched
  rw [builtIn.calls] at matched
  obtain ⟨nodes, taken⟩ := Rule.takesParts_of_builtInCall bare matched
  rw [given, sameResult]
  refine ⟨rfl, ?_, taken.notAccessor, ?_⟩
  · simp [taken.parts, taken.columns, List.flatMap_map]
  · intro part member
    rw [taken.parts] at member
    obtain ⟨partNode, _, rfl⟩ := List.mem_map.1 member
    exact ⟨partNode, rfl⟩

/-- With the built-in rules and any that come after them, the attempt for a
query that has a complete result gives this result and binds its columns. -/
theorem visit_withFurtherRules
    (builtIn : lowerer.HasBuiltInRules)
    (memberRules : List (Rule MemberUse))
    (callRules : List (Rule CallUse))
    {query : Query}
    {result : Lowered}
    (bare : query.Everywhere Query.HasNoStaticTarget)
    (lowered : lowerer.Lowers select query result)
    (complete : result.isComplete = true) :
    (lowerer.withFurtherRules memberRules callRules).visit select query =
      result.attempt := by
  induction lowered with
  | constant value valueType => rfl
  | parameter name valueType => rfl
  | shaper entity => rfl
  | staticMember member =>
      obtain ⟨sameResult, columns, _⟩ :=
        applyRules_member_of_isComplete builtIn memberRules complete
      calc
        (lowerer.withFurtherRules memberRules callRules).visit select
            (.access none member) =
            ⟨[], .ok (lowerer.applyRules (lowerer.memberRules ++ memberRules)
              ⟨none, member⟩)⟩ := rfl
        _ = Lowered.attempt
              (lowerer.applyRules lowerer.memberRules ⟨none, member⟩) := by
          rw [Lowered.attempt, columns, sameResult]
          rfl
  | @boundMember inner entity member result _ bound inductionHypothesis =>
      have innerVisited :=
        inductionHypothesis (bare.child (by simp [Query.children])) rfl
      rw [visit_access_of_attempt member innerVisited]
      exact bindProperty_eq_attempt bound
  | @nullableValue inner node member _ isValue inductionHypothesis =>
      have innerVisited :=
        inductionHypothesis (bare.child (by simp [Query.children])) rfl
      rw [visit_access_of_attempt member innerVisited]
      simp [lowerMember, isValue, Lowered.attempt]
  | @member inner value member _ notEntity notValue inductionHypothesis =>
      obtain ⟨sameResult, columns, fromSql⟩ :=
        applyRules_member_of_isComplete builtIn memberRules complete
      obtain ⟨node, rfl⟩ := fromSql value rfl
      have innerVisited :=
        inductionHypothesis (bare.child (by simp [Query.children])) rfl
      have notNullableValue : member.isNullableValue = false := notValue rfl
      have ruled :
          (lowerer.withFurtherRules memberRules callRules).lowerMember
              select member (some (.sql node)) =
            pure (lowerer.applyRules lowerer.memberRules
              ⟨some (.sql node), member⟩) := by
        rw [lowerMember, if_neg (by simp [notNullableValue])]
        exact congrArg pure sameResult
      rw [visit_access_of_attempt member innerVisited, ruled]
      simp [Lowered.attempt, columns]
  | @accessor target method first rest name entity result accessed _ bound
      inductionHypothesis =>
      have firstVisited :=
        inductionHypothesis (bare.child (by simp [Query.children])) rfl
      rw [visit, accessed, visitAll, firstVisited, lowerCall,
        Attempt.attempt_bind]
      exact bindProperty_eq_attempt bound
  | @call target method arguments targetValue values sameShape _ sameLength _ _
      targetHypothesis argumentsHypothesis =>
      have bareUse : method.kind = .staticMethod → targetValue = none := by
        intro isStatic
        obtain rfl : target = none := bare.root isStatic
        simpa using sameShape.symm
      obtain ⟨sameResult, columns, notAccessor, fromSql⟩ :=
        applyRules_call_of_isComplete builtIn callRules bareUse complete
      -- a part that is not complete could become SQL by a further rule, but
      -- there is none
      have partsComplete : ∀ part, part ∈ targetValue.toList ++ values →
          part.isComplete = true := by
        intro part member
        obtain ⟨node, rfl⟩ := fromSql part member
        rfl
      have targetVisited :
          (lowerer.withFurtherRules memberRules callRules).visitInner select
              target =
            ⟨targetValue.toList.flatMap Lowered.columns, .ok targetValue⟩ := by
        refine visitInner_eq_attempt sameShape
          fun query value present valuePresent => ?_
        exact targetHypothesis query value present valuePresent
          (bare.child (by simp [Query.children, present]))
          (partsComplete value (by simp [valuePresent]))
      have argumentsVisited :
          (lowerer.withFurtherRules memberRules callRules).visitAll select
              arguments =
            values.map Lowered.attempt := by
        refine visitAll_eq_map_attempt sameLength fun pair paired => ?_
        have inArguments := (List.of_mem_zip paired).1
        exact argumentsHypothesis pair paired
          (bare.child (by simp [Query.children, inArguments]))
          (partsComplete pair.2 (by simp [(List.of_mem_zip paired).2]))
      rw [visit_call_of_attempts notAccessor targetVisited argumentsVisited,
        Lowered.attempt, columns]
      exact congrArg (fun given => Attempt.mk _ (.ok given)) sameResult
  | @binary op left right method valueType leftValue rightValue result _ _
      combined leftHypothesis rightHypothesis =>
      obtain ⟨leftComplete, rightComplete, columns⟩ :=
        Lowering.columns_binary combined complete
      have leftVisited :=
        leftHypothesis (bare.child (by simp [Query.children])) leftComplete
      have rightVisited :=
        rightHypothesis (bare.child (by simp [Query.children])) rightComplete
      rw [visit, leftVisited, Attempt.attempt_bind, rightVisited,
        Attempt.attempt_bind]
      simp [Lowered.attempt, columns, withFurtherRules, combined]
  | @unary op operand valueType value _ inductionHypothesis =>
      obtain ⟨operandComplete, columns⟩ := Lowering.columns_unary complete
      have visited := inductionHypothesis
        (bare.child (by simp [Query.children])) operandComplete
      rw [visit, visited, Attempt.attempt_bind]
      simp [Lowered.attempt, columns, withFurtherRules]
  | @construction typeName members arguments values nonempty sameLength
      sameCount _ allComplete inductionHypothesis =>
      have visited :
          (lowerer.withFurtherRules memberRules callRules).visitAll select
              arguments =
            values.map Lowered.attempt := by
        refine visitAll_eq_map_attempt sameCount fun pair paired => ?_
        exact inductionHypothesis pair paired
          (bare.child (List.of_mem_zip paired).1)
          (allComplete pair.2 (List.of_mem_zip paired).2)
      exact visit_construction_of_attempts nonempty (sameLength.trans sameCount)
        visited allComplete
  | incompleteArgument | noConstruction => cases complete
  | @extension name children values sameLength _ inductionHypothesis =>
      rw [Lowered.isComplete_extension, List.all_eq_true] at complete
      have visited :
          (lowerer.withFurtherRules memberRules callRules).visitAll select
              children =
            values.map Lowered.attempt := by
        refine visitAll_eq_map_attempt sameLength fun pair paired => ?_
        exact inductionHypothesis pair paired
          (bare.child (List.of_mem_zip paired).1)
          (complete pair.2 (List.of_mem_zip paired).2)
      exact visit_extension_of_attempts name visited

/-- A query that is not too deep lowers to its result, finished, and the context
notes the columns of the result. -/
theorem lower_of_attempt
    {query : Query}
    {result : Lowered}
    (requireCondition : Bool)
    (shallow : query.depth ≤ lowerer.settings.maxDepth.toNat)
    (visited : lowerer.visit select query = result.attempt) :
    lowerer.lower select query requireCondition =
      (.ok (lowerer.finish requireCondition result),
        select.noteColumns result.columns) := by
  rw [lower_of_shallow lowerer select requireCondition shallow, visited]
  rfl

/-- With the built-in rules, the columns that a context has after a complete
result are those it had, followed by those that occur in the result and are new,
each where it occurs first from left to right. Tables and mappings stay, and no
column is doubled. -/
theorem lower_notes_columns
    (model : EntityModel)
    (mappings : MappingSource)
    (settings : Settings)
    (select : Select)
    (query : Query)
    (requireCondition : Bool)
    (result : Lowered)
    (bare : query.Everywhere Query.HasNoStaticTarget)
    (lowered : ((withBuiltInRules model mappings settings).lower
      select query requireCondition).1 = .ok result)
    (complete : result.isComplete = true) :
    let after := ((withBuiltInRules model mappings settings).lower select query
      requireCondition).2
    after = { select with
        columns := select.columns ++
          (result.columns.filter (· ∉ select.columns)).eraseDups } ∧
      (select.columns.Nodup → after.columns.Nodup) := by
  obtain ⟨shallow, raw, given, rfl⟩ := (lower_eq_ok_iff _ _ _ _ _).1 lowered
  rw [isComplete_finish] at complete
  have visited := visit_withFurtherRules
    (hasBuiltInRules_withBuiltInRules model mappings settings) [] [] bare given
    complete
  rw [withFurtherRules_nil] at visited
  rw [lower_of_attempt requireCondition shallow visited, columns_finish]
  exact ⟨select.noteColumns_eq raw.columns,
    select.nodup_noteColumns raw.columns⟩

/-- A column that is used twice is noted once, and after the column that was
noted before. -/
theorem lower_notes_columns_row :
    let text :=
      fun name column : String => (⟨name, column, .string, none⟩ : Property)
    let model : EntityModel :=
      ⟨[⟨"Customer", "customers", [text "Name" "name", text "City" "city"]⟩]⟩
    let select : Select :=
      ⟨Dialect.ansi.mappings, [⟨"c", "customers", "Customer", ⟨0⟩⟩],
        [⟨"c", "name"⟩]⟩
    let read := fun name : String =>
      Query.access (some (.shaper ⟨"Customer", ⟨0⟩⟩)) ⟨.object, name, .string⟩
    let row := Query.construction "Row" ["City", "Name", "Town"]
      [read "City", read "Name", read "City"]
    let stored := fun column : String => Lowered.sql
      (.leaf ⟨.string, Dialect.ansi.mapping? .string, false⟩
        (.column ⟨"c", column⟩))
    let result := Lowered.projection
      [("City", stored "city"), ("Name", stored "name"),
        ("Town", stored "city")]
    let lowerer := withBuiltInRules model Dialect.ansi.mappings .standard
    row.Everywhere Query.HasNoStaticTarget ∧
      (lowerer.lower select row false).1 = .ok result ∧
      result.columns = [⟨"c", "city"⟩, ⟨"c", "name"⟩, ⟨"c", "city"⟩] ∧
      (lowerer.lower select row false).2.columns =
        [⟨"c", "name"⟩, ⟨"c", "city"⟩] := by
  intro text model select read row stored result lowerer
  have bareRead : ∀ name, (read name).Everywhere Query.HasNoStaticTarget := by
    intro name
    refine (Tree.everywhere_iff _).2 ⟨trivial, ?_⟩
    simpa [read, Query.children] using
      (Tree.everywhere_iff (Query.shaper _)).2 ⟨trivial, by rintro _ ⟨⟩⟩
  have bareRow : row.Everywhere Query.HasNoStaticTarget :=
    (Tree.everywhere_iff row).2
      ⟨trivial, by simp [row, Query.children, bareRead]⟩
  have lowersToRow : (lowerer.lower select row false).1 = .ok result := by cbv
  have noted :=
    (lower_notes_columns _ _ _ _ _ _ _ bareRow lowersToRow (by cbv)).1
  refine ⟨bareRow, lowersToRow, by cbv, ?_⟩
  rw [noted]
  cbv

/-- Rules that come after the built-in ones change neither a complete result nor
the columns that the context notes. -/
theorem lower_withFurtherRules
    (model : EntityModel)
    (mappings : MappingSource)
    (settings : Settings)
    (memberRules : List (Rule MemberUse))
    (callRules : List (Rule CallUse))
    (select : Select)
    (query : Query)
    (requireCondition : Bool)
    (result : Lowered)
    (bare : query.Everywhere Query.HasNoStaticTarget)
    (lowered : ((withBuiltInRules model mappings settings).lower
      select query requireCondition).1 = .ok result)
    (complete : result.isComplete = true) :
    ((withBuiltInRules model mappings settings).withFurtherRules memberRules
          callRules).lower select query requireCondition =
      (.ok result,
        ((withBuiltInRules model mappings settings).lower select query
          requireCondition).2) := by
  obtain ⟨shallow, raw, given, rfl⟩ := (lower_eq_ok_iff _ _ _ _ _).1 lowered
  rw [isComplete_finish] at complete
  have builtIn := hasBuiltInRules_withBuiltInRules model mappings settings
  have visited := visit_withFurtherRules builtIn [] [] bare given complete
  rw [withFurtherRules_nil] at visited
  rw [lower_of_attempt requireCondition shallow visited]
  exact lower_of_attempt requireCondition shallow
    (visit_withFurtherRules builtIn memberRules callRules bare given complete)

/-- A further rule that takes every member is not asked for the length of a
text. -/
theorem lower_withFurtherRules_length :
    let lowerer := withBuiltInRules .empty Dialect.ansi.mappings .standard
    let greedy : Rule MemberUse := fun _ => some (.fragment "NULL" .object)
    let length := Query.access (some (.parameter "name" .string))
      ⟨.string, "length", .int32⟩
    let node := Sql.Node.call ⟨.int32, Dialect.ansi.mapping? .int32, false⟩
      "LENGTH" [.leaf ⟨.string, Dialect.ansi.mapping? .string, false⟩
        (.parameter "name")]
    length.Everywhere Query.HasNoStaticTarget ∧
      (lowerer.lower (.empty Dialect.ansi.mappings) length true).1 =
        .ok (.sql node) ∧
      ((lowerer.withFurtherRules [greedy] []).lower
          (.empty Dialect.ansi.mappings) length true).1 =
        .ok (.sql node) := by
  intro lowerer greedy length node
  have bareName :
      (Query.parameter "name" .string).Everywhere Query.HasNoStaticTarget :=
    (Tree.everywhere_iff _).2 ⟨trivial, by rintro _ ⟨⟩⟩
  have bareLength : length.Everywhere Query.HasNoStaticTarget :=
    (Tree.everywhere_iff length).2
      ⟨trivial, by simpa [length, Query.children] using bareName⟩
  have lowersToCall :
      (lowerer.lower (.empty Dialect.ansi.mappings) length true).1 =
          .ok (.sql node) := by
        cbv
  have unchanged :=
    lower_withFurtherRules .empty Dialect.ansi.mappings .standard [greedy] []
    _ length true _ bareLength lowersToCall rfl
  exact ⟨bareLength, lowersToCall, congrArg Prod.fst unchanged⟩

end Lowerer
end QueryLowering
