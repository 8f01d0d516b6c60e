import QueryLowering.Proofs.Lowering.Blank
import QueryLowering.Rule.Call
import QueryLowering.Rule.Member

/-!
# Built-in rules without the texts of mappings

The built-in rules look for SQL, for constants and for value types, and never
into a mapping. Each declines a blanked use when it declines the use, and else
gives the same expression, blanked.
-/

namespace QueryLowering

/-- The use with the mappings of its inner expression blanked. -/
def MemberUse.blank (use : MemberUse) : MemberUse :=
  { use with inner := use.inner.map Lowered.blank }

@[simp] theorem MemberUse.member_blank (use : MemberUse) :
    use.blank.member = use.member :=
  rfl

@[simp] theorem MemberUse.innerSql?_blank (use : MemberUse) :
    use.blank.innerSql? = use.innerSql?.map Sql.Node.blank := by
  cases known : use.inner <;> simp [MemberUse.blank, innerSql?, known]

/-- The use with the mappings of its target and its arguments blanked. -/
def CallUse.blank (use : CallUse) : CallUse :=
  { use with
    target := use.target.map Lowered.blank
    arguments := use.arguments.map Lowered.blank }

namespace CallUse

@[simp] theorem method_blank (use : CallUse) : use.blank.method = use.method :=
  rfl

@[simp] theorem targetSql?_blank (use : CallUse) :
    use.blank.targetSql? = use.targetSql?.map Sql.Node.blank := by
  cases known : use.target <;> simp [CallUse.blank, targetSql?, known]

@[simp] theorem onlyArgumentSql?_blank (use : CallUse) :
    use.blank.onlyArgumentSql? = use.onlyArgumentSql?.map Sql.Node.blank := by
  unfold onlyArgumentSql? CallUse.blank
  match use.arguments with
  | [] => rfl
  | [argument] => simp
  | _ :: _ :: _ => rfl

@[simp] theorem argumentsSql?_blank (use : CallUse) :
    use.blank.argumentsSql? =
      use.argumentsSql?.map (List.map Sql.Node.blank) := by
  unfold argumentsSql? CallUse.blank
  dsimp only
  induction use.arguments with
  | nil => rfl
  | cons first rest inductionHypothesis =>
      simp only [List.map_cons, List.mapM_cons, Lowered.sql?_blank,
        inductionHypothesis]
      cases first.sql? with
      | none => rfl
      | some node => cases rest.mapM Lowered.sql? <;> rfl

end CallUse

namespace Rule

theorem hasValue_blank (use : MemberUse) :
    hasValue use.blank = (hasValue use).map Sql.Node.blank := by
  unfold hasValue
  rw [MemberUse.innerSql?_blank, MemberUse.member_blank]
  split
  · cases use.innerSql? <;> simp
  · rfl

theorem stringLength_blank (use : MemberUse) :
    stringLength use.blank = (stringLength use).map Sql.Node.blank := by
  unfold stringLength
  rw [MemberUse.innerSql?_blank, MemberUse.member_blank]
  split
  · cases use.innerSql? <;> simp
  · rfl

theorem dateTimeMember_blank (use : MemberUse) :
    dateTimeMember use.blank = (dateTimeMember use).map Sql.Node.blank := by
  unfold dateTimeMember
  rw [MemberUse.member_blank, MemberUse.blank]
  split
  · cases use.inner with
    | none =>
        dsimp only [Option.map_none]
        split <;> simp
    | some inner =>
        simp only [Option.map_some, Lowered.sql?_blank]
        cases dateParts.lookup use.member.name with
        | none => rfl
        | some keyword => cases inner.sql? <;> simp
  · rfl

theorem equals_blank (use : CallUse) :
    equals use.blank = (equals use).map Sql.Node.blank := by
  unfold equals
  rw [CallUse.targetSql?_blank, CallUse.onlyArgumentSql?_blank,
    CallUse.method_blank]
  split
  · cases use.targetSql? with
    | none => rfl
    | some left => cases use.onlyArgumentSql? <;> simp
  · rfl

theorem stringSearch_blank (use : CallUse) :
    stringSearch use.blank = (stringSearch use).map Sql.Node.blank := by
  have sameLiteral : use.blank.onlyArgumentSql?.bind Sql.Node.literal? =
      use.onlyArgumentSql?.bind Sql.Node.literal? := by
    rw [CallUse.onlyArgumentSql?_blank]
    cases use.onlyArgumentSql? <;> simp
  unfold stringSearch
  rw [CallUse.targetSql?_blank, sameLiteral, CallUse.method_blank]
  split
  · cases use.targetSql? with
    | none => rfl
    | some target =>
        cases use.onlyArgumentSql?.bind Sql.Node.literal? with
        | none => rfl
        | some literal =>
            cases literal with
            | string text =>
                dsimp only [Option.map_some]
                split
                · rfl
                · cases likePattern? use.method.name text <;> simp
            | _ => rfl
  · rfl

/-- The arguments of a function are adjusted whatever their mappings. -/
theorem SqlFunction.map_blank_adjust
    (function : SqlFunction)
    (arguments : List Sql.Node) :
    (function.adjust arguments).map Sql.Node.blank =
      function.adjust (arguments.map Sql.Node.blank) := by
  unfold adjust
  split
  · next adjustment _ =>
      cases adjustment with
      | countFromOne =>
          match arguments with
          | [] => rfl
          | [_] => rfl
          | text :: start :: rest => simp [Adjustment.apply, integerNode]
      | zeroPlaces =>
          match arguments with
          | [] => rfl
          | [number] => simp [Adjustment.apply, integerNode]
          | _ :: _ :: _ => rfl
  · rfl

theorem leadingArguments?_blank (function : SqlFunction) (use : CallUse) :
    leadingArguments? function use.blank =
      (leadingArguments? function use).map (List.map Sql.Node.blank) := by
  unfold leadingArguments?
  rw [CallUse.targetSql?_blank]
  split
  · cases use.targetSql? <;> rfl
  · rfl

theorem functionCall_blank (use : CallUse) :
    functionCall use.blank = (functionCall use).map Sql.Node.blank := by
  unfold functionCall
  rw [CallUse.argumentsSql?_blank, CallUse.method_blank]
  simp only [Option.bind_eq_bind, leadingArguments?_blank]
  cases SqlFunction.ofMethodName? use.method.name with
  | none => rfl
  | some function =>
      simp only [Option.bind_some]
      split
      · cases use.argumentsSql? with
        | none => rfl
        | some rest =>
            cases leadingArguments? function use with
            | none => rfl
            | some leading =>
                simp [← List.map_append, ← SqlFunction.map_blank_adjust,
                  List.any_map, Function.comp_def]
      · rfl

/-- The first match commutes with blanking if every rule does. -/
theorem firstMatch?_blank
    {rules : List (Rule α)}
    {blank : α → α}
    (use : α)
    (commutes : ∀ rule, rule ∈ rules →
      rule (blank use) = (rule use).map Sql.Node.blank) :
    firstMatch? rules (blank use) =
      (firstMatch? rules use).map Sql.Node.blank := by
  unfold firstMatch?
  induction rules with
  | nil => rfl
  | cons rule rest inductionHypothesis =>
      obtain ⟨first, others⟩ := List.forall_mem_cons.1 commutes
      rw [List.findSome?_cons, List.findSome?_cons, first,
        inductionHypothesis others]
      cases rule use <;> rfl

theorem firstMatch?_builtInMembers_blank (use : MemberUse) :
    firstMatch? builtInMembers use.blank =
      (firstMatch? builtInMembers use).map Sql.Node.blank := by
  refine firstMatch?_blank use ?_
  simp [builtInMembers, hasValue_blank, stringLength_blank,
    dateTimeMember_blank]

theorem firstMatch?_builtInCalls_blank (use : CallUse) :
    firstMatch? builtInCalls use.blank =
      (firstMatch? builtInCalls use).map Sql.Node.blank := by
  refine firstMatch?_blank use ?_
  simp [builtInCalls, equals_blank, stringSearch_blank, functionCall_blank]

end Rule
end QueryLowering
