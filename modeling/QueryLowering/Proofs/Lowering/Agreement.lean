import QueryLowering.Proofs.Lowering.Lowers
import QueryLowering.Proofs.Lowering.Step
import QueryLowering.Proofs.Query.Spelling

/-!
# What lowering depends on

A lowerer asks its model and the select context only for the columns of
properties, and its rules only for members of what is no entity and for calls.
Lowerers that give the same answers there lower every query alike, and it does
not matter how the query spells the properties of entities.

So no rule for members is ever asked about a member of an entity, and a call of
the property accessor on an entity does what the member does, whatever the rules
for calls are.
-/

namespace QueryLowering
namespace Lowerer

/-- Two lowerers, each against a context of its own, agree on all that lowering
asks for. A rule for members is not asked about entities. -/
structure AgreesWith
    (lowerer other : Lowerer)
    (select context : Select) : Prop where
  mappings : lowerer.mappings = other.mappings
  bound : ∀ entity name,
    lowerer.bindProperty select entity name =
      other.bindProperty context entity name
  members : ∀ use : MemberUse, (∀ entity, use.inner ≠ some (.shaper entity)) →
    lowerer.applyRules lowerer.memberRules use =
      other.applyRules other.memberRules use
  calls : ∀ use : CallUse,
    lowerer.applyRules lowerer.callRules use =
      other.applyRules other.callRules use

variable {lowerer other : Lowerer} {select context : Select}

theorem AgreesWith.refl (lowerer : Lowerer) (select : Select) :
    lowerer.AgreesWith lowerer select select where
  mappings := rfl
  bound _ _ := rfl
  members _ _ := rfl
  calls _ := rfl

/-- Rules with the same first matches make the same of a use. -/
theorem applyRules_congr
    {rules others : List (Rule α)}
    {use : α}
    (sameMatch : Rule.firstMatch? rules use = Rule.firstMatch? others use)
    (sameMappings : lowerer.mappings = other.mappings) :
    lowerer.applyRules rules use = other.applyRules others use := by
  rw [applyRules, applyRules, sameMatch, sameMappings]

/-- The fields of a constructed object depend on the mappings alone. -/
theorem lowerFields_congr
    (sameMappings : lowerer.mappings = other.mappings)
    (members : List String)
    (arguments : List (Attempt Lowered)) :
    lowerer.lowerFields members arguments =
      other.lowerFields members arguments := by
  induction members generalizing arguments with
  | nil => rfl
  | cons member members inductionHypothesis =>
      cases arguments with
      | nil => rfl
      | cons argument arguments =>
          rw [lowerFields, lowerFields, sameMappings, inductionHypothesis]

/-- Queries of two lists are attempted alike, if each is as the one in its
place. -/
theorem visitAll_congr
    {queries spelled : List Query}
    (sameLength : queries.length = spelled.length)
    (alike : ∀ pair, pair ∈ queries.zip spelled →
      lowerer.visit select pair.1 = other.visit context pair.2) :
    lowerer.visitAll select queries = other.visitAll context spelled := by
  rw [visitAll_eq_map, visitAll_eq_map]
  exact Query.map_eq_map_of_zip sameLength alike

/-- Inner queries are attempted alike, if none is there or both are alike. -/
theorem visitInner_congr
    {inner spelledInner : Option Query}
    (sameShape : inner.isSome = spelledInner.isSome)
    (alike : ∀ query spelled, inner = some query → spelledInner = some spelled →
      lowerer.visit select query = other.visit context spelled) :
    lowerer.visitInner select inner =
      other.visitInner context spelledInner := by
  cases inner with
  | none =>
      obtain rfl : spelledInner = none := by simpa using sameShape.symm
      rfl
  | some query =>
      obtain ⟨spelled, rfl⟩ :=
        Option.isSome_iff_exists.1 (by simpa using sameShape.symm)
      rw [visitInner, visitInner, alike query spelled rfl rfl]

/-- A member of an entity is attempted as the property is bound. -/
theorem visit_member_of_entity (entity : EntityRef) (member : Member) :
    lowerer.visit select (.access (some (.shaper entity)) member) =
      lowerer.bindProperty select entity member.name := by
  rw [visit, visitInner, visit, Attempt.bind_of_ok _ rfl,
    Attempt.bind_of_ok _ rfl]
  rfl

/-- A property accessor on an entity is attempted as the property is bound,
whatever its target and the rules are. -/
theorem visit_accessor_on_entity
    {method : Method}
    (isAccessor : method.kind = .propertyAccessor)
    (target : Option Query)
    (entity : EntityRef)
    (name : String)
    (nameType : ValueType) :
    lowerer.visit select
        (.call target method
          [.shaper entity, .constant (.string name) nameType]) =
      lowerer.bindProperty select entity name := by
  have accessed : accessedProperty? method
      [.shaper entity, .constant (.string name) nameType] = some name := by
    simp [accessedProperty?, isAccessor]
  rw [visit, accessed, visitAll, lowerCall, visit, Attempt.bind_of_ok _ rfl]
  rfl

namespace AgreesWith

variable (agrees : lowerer.AgreesWith other select context)

include agrees

theorem lowerMember_eq (member : Member) (inner : Option Lowered) :
    lowerer.lowerMember select member inner =
      other.lowerMember context member inner := by
  cases inner with
  | none => exact congrArg pure (agrees.members ⟨none, member⟩ (by rintro _ ⟨⟩))
  | some value =>
      cases value with
      | shaper entity => exact agrees.bound entity member.name
      | sql node =>
          rw [lowerMember, lowerMember]
          split
          · rfl
          · exact congrArg pure
              (agrees.members ⟨some (.sql node), member⟩ (by rintro _ ⟨⟩))
      | _ =>
          exact congrArg pure (agrees.members ⟨some _, member⟩ (by rintro _ ⟨⟩))

theorem lowerRuleCall_eq
    (method : Method)
    (target : Attempt (Option Lowered))
    (lowered : List Lowered)
    (arguments : List (Attempt Lowered)) :
    lowerer.lowerRuleCall method target lowered arguments =
      other.lowerRuleCall method target lowered arguments := by
  simp only [lowerRuleCall, agrees.calls]

theorem lowerCall_eq
    (method : Method)
    (accessed : Option String)
    (target : Attempt (Option Lowered))
    (arguments : List (Attempt Lowered)) :
    lowerer.lowerCall select method accessed target arguments =
      other.lowerCall context method accessed target arguments := by
  cases accessed with
  | none => exact agrees.lowerRuleCall_eq method target [] arguments
  | some name =>
      cases arguments with
      | nil => exact agrees.lowerRuleCall_eq method target [] []
      | cons first rest =>
          refine congrArg (first >>= ·) (funext fun value => ?_)
          cases value with
          | shaper entity => exact agrees.bound entity name
          | _ => exact agrees.lowerRuleCall_eq method target [_] rest

theorem lowerConstruction_eq
    (members : List String)
    (arguments : List (Attempt Lowered)) :
    lowerer.lowerConstruction members arguments =
      other.lowerConstruction members arguments := by
  rw [lowerConstruction, lowerConstruction, lowerFields_congr agrees.mappings]

/-- Lowerers that agree make the same of two spellings of a query. -/
theorem visit_eq {query spelled : Query} (respelled : query.Respelled spelled) :
    lowerer.visit select query = other.visit context spelled := by
  induction respelled with
  | accessor entity member nameType isAccessor =>
      rw [visit_member_of_entity, visit_accessor_on_entity isAccessor]
      exact agrees.bound entity member.name
  | access member sameShape _ inductionHypothesis =>
      rw [visit, visit, visitInner_congr sameShape inductionHypothesis]
      exact congrArg _ (funext (agrees.lowerMember_eq member))
  | call method sameShape _ sameLength respelled targetHypothesis
      argumentsHypothesis =>
      rw [visit, visit, visitInner_congr sameShape targetHypothesis,
        visitAll_congr sameLength argumentsHypothesis,
        Query.accessedProperty?_eq_of_respelled method sameLength respelled]
      exact agrees.lowerCall_eq method _ _ _
  | binary op method valueType _ _ leftHypothesis rightHypothesis =>
      rw [visit, visit, leftHypothesis, rightHypothesis, agrees.mappings]
  | unary op valueType _ inductionHypothesis =>
      rw [visit, visit, inductionHypothesis, agrees.mappings]
  | constant value valueType => rfl
  | parameter name valueType => rfl
  | construction typeName members sameLength _ inductionHypothesis =>
      rw [visit, visit, visitAll_congr sameLength inductionHypothesis]
      exact agrees.lowerConstruction_eq members _
  | shaper entity => rfl
  | extension name sameLength _ inductionHypothesis =>
      rw [visit, visit, visitAll_congr sameLength inductionHypothesis]

end AgreesWith

theorem finish_congr
    (sameMappings : lowerer.mappings = other.mappings)
    (requireCondition : Bool)
    (result : Lowered) :
    lowerer.finish requireCondition result =
      other.finish requireCondition result := by
  cases result with
  | sql node => rw [finish_sql, finish_sql, sameMappings]
  | _ => rfl

/-- Lowerers that agree give the same result or error for two spellings of a
query. -/
theorem AgreesWith.result_lower_eq
    (agrees : lowerer.AgreesWith other select context)
    (sameSettings : lowerer.settings = other.settings)
    {query spelled : Query}
    (respelled : query.Respelled spelled)
    (requireCondition : Bool) :
    (lowerer.lower select query requireCondition).1 =
      (other.lower context spelled requireCondition).1 := by
  have sameFinish := funext (finish_congr agrees.mappings requireCondition)
  rw [lower_eq, lower_eq, sameSettings, respelled.depth_eq,
    agrees.visit_eq respelled, sameFinish]

/-- Lowerers that agree on one context lower every query alike and leave the
context alike. -/
theorem AgreesWith.lower_eq
    (agrees : lowerer.AgreesWith other select select)
    (sameSettings : lowerer.settings = other.settings)
    (query : Query)
    (requireCondition : Bool) :
    lowerer.lower select query requireCondition =
      other.lower select query requireCondition := by
  have sameAttempt := agrees.visit_eq (Query.Respelled.refl query)
  have sameFinish := funext (finish_congr agrees.mappings requireCondition)
  rw [lower, lower, sameSettings, sameAttempt, sameFinish]

/-- Rules for members are not asked about members of entities: other answers
there change neither a result or error nor the context. And a query in which
members of entities are spelled as calls of the property accessor is as deep as
before and lowers alike, whatever the rules are. -/
theorem lower_binds_entities
    (lowerer : Lowerer)
    (select : Select)
    (requireCondition : Bool) :
    (∀ memberRules : List (Rule MemberUse),
      (∀ use : MemberUse, (∀ entity, use.inner ≠ some (.shaper entity)) →
        Rule.firstMatch? memberRules use =
          Rule.firstMatch? lowerer.memberRules use) →
      ∀ query,
        { lowerer with memberRules }.lower select query requireCondition =
        lowerer.lower select query requireCondition) ∧
    (∀ query spelled : Query, query.Respelled spelled →
      spelled.depth = query.depth ∧
        lowerer.lower select spelled requireCondition =
          lowerer.lower select query requireCondition) := by
  constructor
  · intro memberRules sameElsewhere query
    have agrees :
        { lowerer with memberRules }.AgreesWith lowerer select select :=
      { mappings := rfl
        bound := fun _ _ => rfl
        members := fun use notEntity =>
          applyRules_congr (sameElsewhere use notEntity) rfl
        calls := fun _ => rfl }
    have sameAttempt := agrees.visit_eq (Query.Respelled.refl query)
    have sameFinish := funext (finish_congr agrees.mappings requireCondition)
    rw [lower, lower, sameAttempt, sameFinish]
  · intro query spelled respelled
    have sameDepth := respelled.depth_eq
    have sameAttempt := (AgreesWith.refl lowerer select).visit_eq respelled
    exact ⟨sameDepth.symm, by rw [lower, lower, sameDepth, sameAttempt]⟩

/-- A rule that claims every member of an entity is not asked for a name, and
the rule that claims every call is asked for the outer call alone when the name
is spelled as a call. -/
theorem lower_binds_entities_nested :
    let name : Property := ⟨"Name", "name", .string, none⟩
    let model : EntityModel := ⟨[⟨"Customer", "customers", [name]⟩]⟩
    let select : Select :=
      ⟨Dialect.ansi.mappings, [⟨"c", "customers", "Customer", ⟨0⟩⟩], []⟩
    let entity : Query := .shaper ⟨"Customer", ⟨0⟩⟩
    let property : Method := ⟨.propertyAccessor, .object, "property", .string⟩
    let text := fun text : String => Query.constant (.string text) .string
    let outer :=
      fun inner : Query => Query.call none property [inner, text "Length"]
    let asMember := outer (.access (some entity) ⟨.object, "Name", .string⟩)
    let asCall := outer (.call none property [entity, text "Name"])
    let claimEntity : Rule MemberUse := fun use =>
      match use.inner with
      | some (.shaper _) => some (.fragment "NULL" .object)
      | _ => none
    let claimCall : Rule CallUse :=
      fun use => use.arguments.head?.bind Lowered.sql?
    let lowerer : Lowerer :=
      ⟨model, Dialect.ansi.mappings, [], [claimCall], .standard⟩
    let stored := Lowered.sql
      (.leaf ⟨.string, Dialect.ansi.mapping? .string, false⟩
        (.column ⟨"c", "name"⟩))
    asMember.Respelled asCall ∧
      (lowerer.lower select asMember false).1 = .ok stored ∧
      ({ lowerer with memberRules := [claimEntity] }.lower
        select asMember false).1 = .ok stored ∧
      (lowerer.lower select asCall false).1 = .ok stored ∧
      (lowerer.lower select asCall false).2.columns = [⟨"c", "name"⟩] := by
  intro name model select entity property text outer asMember asCall claimEntity
    claimCall lowerer stored
  have respelled : asMember.Respelled asCall := by
    refine .call property rfl (by rintro _ _ ⟨⟩) rfl ?_
    rintro pair paired
    rcases List.mem_pair.1 paired with rfl | rfl
    · exact .accessor ⟨"Customer", ⟨0⟩⟩ ⟨.object, "Name", .string⟩ .string rfl
    · exact .constant (.string "Length") .string
  have sameElsewhere : ∀ use : MemberUse,
      (∀ entity, use.inner ≠ some (.shaper entity)) →
      Rule.firstMatch? [claimEntity] use =
        Rule.firstMatch? lowerer.memberRules use := by
    intro use notEntity
    have declined : claimEntity use = none := by
      show (match use.inner with
        | some (.shaper _) => some (Sql.Node.fragment "NULL" .object)
        | _ => none) = none
      split
      · next entity isEntity => exact absurd isEntity (notEntity entity)
      · rfl
    simp [Rule.firstMatch?, declined, lowerer]
  have lowered : lowerer.lower select asMember false =
      (.ok stored, { select with columns := [⟨"c", "name"⟩] }) := by cbv
  obtain ⟨otherRules, otherSpelling⟩ :=
    lower_binds_entities lowerer select false
  have sameResult := otherRules [claimEntity] sameElsewhere asMember
  have sameSpelling := (otherSpelling asMember asCall respelled).2
  refine ⟨respelled, by rw [lowered], by rw [sameResult, lowered], ?_, ?_⟩
  · rw [sameSpelling, lowered]
  · rw [sameSpelling, lowered]

end Lowerer
end QueryLowering
