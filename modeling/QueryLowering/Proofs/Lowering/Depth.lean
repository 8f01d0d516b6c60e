import QueryLowering.Proofs.Lowering.Lowers
import QueryLowering.Proofs.Query.Height

/-!
# Queries that are too deep

The attempt for a query can fail because the query disagrees with the model, the
mappings or the context, but never for its depth. So a query is refused as too
deep exactly when its height exceeds the limit. Nothing has been bound then, and
the context is as before.
-/

namespace QueryLowering
namespace Attempt

/-- The attempt does not fail for the depth of a query. -/
def NeverTooDeep (attempt : Attempt α) : Prop :=
  ∀ limit, attempt.result ≠ .error (.tooDeep limit)

theorem neverTooDeep_pure (value : α) :
    (pure value : Attempt α).NeverTooDeep := by
  rintro limit ⟨⟩

theorem NeverTooDeep.bind
    {attempt : Attempt α}
    {next : α → Attempt β}
    (first : attempt.NeverTooDeep)
    (later : ∀ value, (next value).NeverTooDeep) :
    (attempt >>= next).NeverTooDeep := by
  intro limit
  cases known : attempt.result with
  | ok value =>
      rw [bind_of_ok next known]
      exact later value limit
  | error error =>
      rw [bind_of_error next known]
      rintro ⟨⟩
      exact first limit known

theorem neverTooDeep_sequence
    {attempts : List (Attempt α)}
    (each : ∀ attempt, attempt ∈ attempts → attempt.NeverTooDeep) :
    (sequence attempts).NeverTooDeep := by
  induction attempts with
  | nil => exact neverTooDeep_pure []
  | cons attempt rest inductionHypothesis =>
      obtain ⟨first, others⟩ := List.forall_mem_cons.1 each
      refine first.bind fun value => ?_
      exact (inductionHypothesis others).bind
        fun values => neverTooDeep_pure (value :: values)

end Attempt

namespace Lowering

theorem concatenation_ne_tooDeep
    (source : MappingSource)
    (left right : Sql.Node)
    (limit : UInt32) :
    concatenation source left right ≠ .error (.tooDeep limit) := by
  unfold concatenation
  dsimp only
  split
  · rintro ⟨⟩
  · rintro ⟨⟩

theorem binary_ne_tooDeep
    (source : MappingSource)
    (op : Query.BinaryOp)
    (method : Option Method)
    (valueType : ValueType)
    (left right : Lowered)
    (limit : UInt32) :
    binary source op method valueType left right ≠ .error (.tooDeep limit) := by
  unfold binary
  split
  · next leftNode rightNode _ _ =>
      split
      · have otherwise :=
          concatenation_ne_tooDeep source leftNode rightNode limit
        cases given : concatenation source leftNode rightNode with
        | ok node => rintro ⟨⟩
        | error error =>
            rintro ⟨⟩
            exact otherwise given
      · rintro ⟨⟩
  · rintro ⟨⟩

end Lowering

namespace Lowerer

open Attempt (NeverTooDeep neverTooDeep_pure neverTooDeep_sequence)

variable (lowerer : Lowerer) (select : Select)

theorem neverTooDeep_bindProperty (entity : EntityRef) (name : String) :
    (lowerer.bindProperty select entity name).NeverTooDeep := by
  intro limit
  unfold bindProperty
  split
  · rintro ⟨⟩
  · split
    · rintro ⟨⟩
    · split
      · rintro ⟨⟩
      · rintro ⟨⟩

theorem neverTooDeep_lowerMember (member : Member) (inner : Option Lowered) :
    (lowerer.lowerMember select member inner).NeverTooDeep := by
  unfold lowerMember
  split
  · exact lowerer.neverTooDeep_bindProperty select _ _
  · split
    · exact neverTooDeep_pure _
    · exact neverTooDeep_pure _
  · exact neverTooDeep_pure _

variable {lowerer select}

theorem neverTooDeep_lowerRuleCall
    {method : Method}
    {target : Attempt (Option Lowered)}
    {arguments : List (Attempt Lowered)}
    (lowered : List Lowered)
    (ofTarget : target.NeverTooDeep)
    (ofArguments : ∀ argument, argument ∈ arguments → argument.NeverTooDeep) :
    (lowerer.lowerRuleCall method target lowered arguments).NeverTooDeep := by
  refine ofTarget.bind fun target => ?_
  exact (neverTooDeep_sequence ofArguments).bind
    fun arguments => neverTooDeep_pure _

theorem neverTooDeep_lowerCall
    {method : Method}
    {accessed : Option String}
    {target : Attempt (Option Lowered)}
    {arguments : List (Attempt Lowered)}
    (ofTarget : target.NeverTooDeep)
    (ofArguments : ∀ argument, argument ∈ arguments → argument.NeverTooDeep) :
    (lowerer.lowerCall select method accessed target
      arguments).NeverTooDeep := by
  unfold lowerCall
  split
  · obtain ⟨ofFirst, ofRest⟩ := List.forall_mem_cons.1 ofArguments
    refine ofFirst.bind fun first => ?_
    split
    · exact lowerer.neverTooDeep_bindProperty select _ _
    · exact neverTooDeep_lowerRuleCall [first] ofTarget ofRest
  · exact neverTooDeep_lowerRuleCall [] ofTarget ofArguments

theorem neverTooDeep_lowerFields
    (members : List String)
    {arguments : List (Attempt Lowered)}
    (ofArguments : ∀ argument, argument ∈ arguments → argument.NeverTooDeep) :
    (lowerer.lowerFields members arguments).NeverTooDeep := by
  induction members generalizing arguments with
  | nil => exact neverTooDeep_pure _
  | cons member members inductionHypothesis =>
      cases arguments with
      | nil => exact neverTooDeep_pure _
      | cons argument arguments =>
          obtain ⟨ofFirst, ofRest⟩ := List.forall_mem_cons.1 ofArguments
          refine ofFirst.bind fun value => ?_
          split
          · exact neverTooDeep_pure _
          · exact (inductionHypothesis ofRest).bind
              fun rest => neverTooDeep_pure _

theorem neverTooDeep_lowerConstruction
    (members : List String)
    {arguments : List (Attempt Lowered)}
    (ofArguments : ∀ argument, argument ∈ arguments → argument.NeverTooDeep) :
    (lowerer.lowerConstruction members arguments).NeverTooDeep := by
  unfold lowerConstruction
  split
  · exact neverTooDeep_pure _
  · refine (neverTooDeep_lowerFields members ofArguments).bind fun fields => ?_
    split
    · exact neverTooDeep_pure _
    · exact neverTooDeep_pure _

theorem neverTooDeep_visitInner
    {inner : Option Query}
    (ofQuery : ∀ query, inner = some query →
      (lowerer.visit select query).NeverTooDeep) :
    (lowerer.visitInner select inner).NeverTooDeep := by
  cases inner with
  | none => exact neverTooDeep_pure none
  | some query =>
      exact (ofQuery query rfl).bind fun value => neverTooDeep_pure (some value)

theorem neverTooDeep_visitAll
    {queries : List Query}
    (ofQueries : ∀ query, query ∈ queries →
      (lowerer.visit select query).NeverTooDeep) :
    ∀ attempt, attempt ∈ lowerer.visitAll select queries →
      attempt.NeverTooDeep := by
  rw [visitAll_eq_map]
  exact List.forall_mem_map.2 ofQueries

variable (lowerer select)

/-- The attempt for a query never fails for its depth. -/
theorem neverTooDeep_visit (query : Query) :
    (lowerer.visit select query).NeverTooDeep := by
  induction query using Query.induct with
  | access inner member innerHypothesis =>
      refine (neverTooDeep_visitInner innerHypothesis).bind fun inner => ?_
      exact lowerer.neverTooDeep_lowerMember select member inner
  | call target method arguments targetHypothesis argumentsHypothesis =>
      exact neverTooDeep_lowerCall (neverTooDeep_visitInner targetHypothesis)
        (neverTooDeep_visitAll argumentsHypothesis)
  | binary op left right method valueType leftHypothesis rightHypothesis =>
      refine leftHypothesis.bind fun leftValue => rightHypothesis.bind
        fun rightValue => ?_
      exact Lowering.binary_ne_tooDeep _ op method valueType leftValue
        rightValue
  | unary op operand valueType operandHypothesis =>
      exact operandHypothesis.bind fun value => neverTooDeep_pure _
  | constant value valueType => exact neverTooDeep_pure _
  | parameter name valueType => exact neverTooDeep_pure _
  | construction typeName members arguments argumentsHypothesis =>
      exact neverTooDeep_lowerConstruction members
        (neverTooDeep_visitAll argumentsHypothesis)
  | shaper entity => exact neverTooDeep_pure _
  | extension name children childrenHypothesis =>
      refine (neverTooDeep_sequence
        (neverTooDeep_visitAll childrenHypothesis)).bind ?_
      exact fun values => neverTooDeep_pure _

/-- A query is refused as too deep, and under the limit of the settings, exactly
when it is deeper than that. -/
theorem lower_eq_tooDeep_iff
    (query : Query)
    (requireCondition : Bool)
    (limit : UInt32) :
    (lowerer.lower select query requireCondition).1 = .error (.tooDeep limit) ↔
      limit = lowerer.settings.maxDepth ∧
        lowerer.settings.maxDepth.toNat < query.depth := by
  by_cases tooDeep : lowerer.settings.maxDepth.toNat < query.depth
  · rw [lower, if_pos tooDeep]
    simp [tooDeep, eq_comm]
  · have otherwise := lowerer.neverTooDeep_visit select query limit
    rw [lower_of_shallow _ _ _ (Nat.not_lt.1 tooDeep)]
    simp only [tooDeep, and_false, iff_false]
    cases given : (lowerer.visit select query).result with
    | ok value => rintro ⟨⟩
    | error error =>
        rintro ⟨⟩
        exact otherwise given

/-- A walk over the pending nodes of a query ends after as many rounds as there
are nodes, in whichever order it takes them, and has come then as deep as the
query is high; the depth is what such a walk finds. A query is refused as too
deep exactly when its height exceeds the limit, and then the context stays as it
is. -/
theorem lower_refuses_deep
    (lowerer : Lowerer)
    (select : Select)
    (query : Query)
    (requireCondition : Bool) :
    (∀ rounds pending deepest, query.Walks rounds pending deepest →
      rounds ≤ query.size ∧ (pending = [] ↔ rounds = query.size) ∧
        (pending = [] → deepest = query.height)) ∧
    query.Walks query.size [] query.depth ∧
    query.depth = query.height ∧
    (∀ limit, (lowerer.lower select query requireCondition).1 =
        .error (.tooDeep limit) ↔
      limit = lowerer.settings.maxDepth ∧
        lowerer.settings.maxDepth.toNat < query.height) ∧
    (lowerer.settings.maxDepth.toNat < query.height →
      (lowerer.lower select query requireCondition).2 = select) := by
  refine ⟨?_, query.walks_depth, query.depth_eq_height, ?_, ?_⟩
  · intro rounds pending deepest walks
    refine ⟨Nat.le.intro walks.rounds_add_pendingSize, walks.pending_eq_nil_iff,
      ?_⟩
    rintro rfl
    exact walks.deepest_eq_height
  · intro limit
    rw [← query.depth_eq_height]
    exact lowerer.lower_eq_tooDeep_iff select query requireCondition limit
  · intro tooDeep
    rw [← query.depth_eq_height] at tooDeep
    rw [lower, if_pos tooDeep]

/-- Under a limit of two, the name of a customer is lowered and its column is
noted. The length of the name is one level higher and is refused, and nothing is
noted. -/
theorem lower_refuses_deep_length :
    let property : Property := ⟨"Name", "name", .string, none⟩
    let model : EntityModel := ⟨[⟨"Customer", "customers", [property]⟩]⟩
    let source := Dialect.ansi.mappings
    let select : Select := ⟨source, [⟨"c", "customers", "Customer", ⟨0⟩⟩], []⟩
    let lowerer :=
      withBuiltInRules model source { Settings.standard with maxDepth := 2 }
    let name :=
      Query.access (some (.shaper ⟨"Customer", ⟨0⟩⟩)) ⟨.object, "Name", .string⟩
    let length := Query.access (some name) ⟨.string, "length", .int32⟩
    let stored := Sql.Node.leaf ⟨.string, Dialect.ansi.mapping? .string, false⟩
      (.column ⟨"c", "name"⟩)
    lowerer.lower select name false =
        (.ok (.sql stored), { select with columns := [⟨"c", "name"⟩] }) ∧
      length.height = 3 ∧
      (lowerer.lower select length false).1 = .error (.tooDeep 2) ∧
      (lowerer.lower select length false).2 = select := by
  intro property model source select lowerer name length stored
  have height : length.height = 3 := rfl
  have tooDeep : lowerer.settings.maxDepth.toNat < length.height := by decide
  obtain ⟨_, _, _, refused, unchanged⟩ :=
    lower_refuses_deep lowerer select length false
  refine ⟨by cbv, height, ?_, unchanged tooDeep⟩
  exact (refused 2).2 ⟨rfl, tooDeep⟩

end Lowerer
end QueryLowering
