import QueryLowering.Proofs.Lowering.Invariant
import QueryLowering.Proofs.Rule.Blank
import QueryLowering.Proofs.Select.Reachable

/-!
# Lowering does not depend on the dialect

With the built-in rules, lowering commutes with the blanking of mappings, those
of the lowerer, of the select context and of the properties of the model. The
dialects have the same mappings up to blanking. So their results differ in the
texts of mappings alone, and the errors and the columns do not differ at all.
-/

namespace QueryLowering

/-- The property without the store type that it declares. -/
def Property.blank (property : Property) : Property :=
  { property with storeType := none }

/-- The entity type without the store types that its properties declare. -/
def EntityType.blank (entity : EntityType) : EntityType :=
  { entity with properties := entity.properties.map Property.blank }

theorem EntityType.property?_blank (entity : EntityType) (name : String) :
    entity.blank.property? name =
      (entity.property? name).map Property.blank := by
  rw [property?, blank, List.find?_map]
  rfl

/-- The model without the store types that properties declare. -/
def EntityModel.blank (model : EntityModel) : EntityModel :=
  ⟨model.entities.map EntityType.blank⟩

theorem EntityModel.entity?_blank (model : EntityModel) (name : String) :
    model.blank.entity? name = (model.entity? name).map EntityType.blank := by
  rw [entity?, blank, List.find?_map]
  rfl

namespace Select

/-- The context with its mappings blanked. -/
def blank (select : Select) : Select :=
  { select with mappings := select.mappings.blank }

theorem blank_columnNode
    (select : Select)
    (column : Sql.ColumnRef)
    (property : Property) :
    (select.columnNode column property).blank =
      select.blank.columnNode column property.blank := by
  rw [columnNode, columnNode, Sql.Node.blank_column]
  congr 1
  simp only [propertyMapping, blank, MappingSource.blank, Property.blank]
  cases select.mappings.find property.valueType with
  | none => rfl
  | some mapping => cases property.storeType <;> rfl

/-- Tables are added whatever the mappings are. -/
theorem blank_addTables (select : Select) (entities : List EntityType) :
    (select.addTables entities).blank = select.blank.addTables entities := by
  induction entities generalizing select with
  | nil => rfl
  | cons entity rest inductionHypothesis =>
      exact inductionHypothesis (select.addTable entity).1

/-- Columns are noted whatever the mappings are. -/
theorem blank_noteColumns (select : Select) (columns : List Sql.ColumnRef) :
    (select.noteColumns columns).blank = select.blank.noteColumns columns := by
  rw [noteColumns_eq, noteColumns_eq]
  rfl

end Select

namespace Attempt

/-- The attempt with its value changed. -/
def map (change : α → β) (attempt : Attempt α) : Attempt β :=
  ⟨attempt.columns, attempt.result.map change⟩

@[simp] theorem map_pure (change : α → β) (value : α) :
    (pure value : Attempt α).map change = pure (change value) := rfl

/-- What goes on with a changed value is changed, if it is so for every
value. -/
theorem map_bind
    {changeValue : α → α}
    {change : β → β}
    {next nextChanged : α → Attempt β}
    (attempt : Attempt α)
    (commutes : ∀ value,
      (next value).map change = nextChanged (changeValue value)) :
    (attempt >>= next).map change =
      attempt.map changeValue >>= nextChanged := by
  cases known : attempt.result with
  | error error =>
      have changedKnown : (attempt.map changeValue).result = .error error := by
        simp [map, known, Except.map]
      rw [bind_of_error next known, bind_of_error nextChanged changedKnown]
      rfl
  | ok value =>
      have changedKnown : (attempt.map changeValue).result =
          .ok (changeValue value) := by
        simp [map, known, Except.map]
      rw [bind_of_ok next known, bind_of_ok nextChanged changedKnown,
        ← commutes]
      rfl

theorem map_sequence (change : α → α) (attempts : List (Attempt α)) :
    (sequence attempts).map (List.map change) =
      sequence (attempts.map (map change)) := by
  induction attempts with
  | nil => rfl
  | cons attempt rest inductionHypothesis =>
      refine map_bind attempt fun value => ?_
      rw [← inductionHypothesis]
      exact map_bind (sequence rest) fun values => rfl

end Attempt

namespace Lowerer

/-- The lowerer with its mappings and its model blanked. -/
def blank (lowerer : Lowerer) : Lowerer :=
  { lowerer with
    model := lowerer.model.blank, mappings := lowerer.mappings.blank }

variable (lowerer : Lowerer) (select : Select)

@[simp] theorem settings_blank : lowerer.blank.settings = lowerer.settings :=
  rfl

theorem blank_finish (requireCondition : Bool) (result : Lowered) :
    (lowerer.finish requireCondition result).blank =
      lowerer.blank.finish requireCondition result.blank := by
  cases result with
  | sql node =>
      cases requireCondition <;> simp [finish, blank, MappingSource.blank]
  | _ => simp [finish]

theorem blank_bindProperty (entity : EntityRef) (name : String) :
    (lowerer.bindProperty select entity name).map Lowered.blank =
      lowerer.blank.bindProperty select.blank entity name := by
  unfold bindProperty
  rw [blank, EntityModel.entity?_blank]
  cases lowerer.model.entity? entity.entityType with
  | none => rfl
  | some entityType =>
      dsimp only [Option.map_some]
      rw [EntityType.property?_blank]
      cases entityType.property? name with
      | none => rfl
      | some property =>
          have sameColumn :
              select.blank.columnRef entity.buffer property.blank =
                select.columnRef entity.buffer property :=
            rfl
          dsimp only [Option.map_some]
          rw [sameColumn]
          cases select.columnRef entity.buffer property with
          | error error => rfl
          | ok column => simp [Attempt.map, Except.map, Select.blank_columnNode]

/-- What rules make of a blanked use is what they make of the use, blanked, if
it is so for their first match. -/
theorem blank_applyRules
    {rules : List (Rule α)}
    {use useBlank : α}
    (sameMatch : Rule.firstMatch? rules useBlank =
      (Rule.firstMatch? rules use).map Sql.Node.blank) :
    (lowerer.applyRules rules use).blank =
      lowerer.blank.applyRules rules useBlank := by
  unfold applyRules
  rw [sameMatch]
  cases Rule.firstMatch? rules use <;> simp [blank]

variable {lowerer} {select}

/-- Whether there is a field is decided alike, and so whether the fields after
it are lowered. -/
theorem map_blank_lowerFields
    (members : List String)
    (arguments : List (Attempt Lowered)) :
    (lowerer.lowerFields members arguments).map
        (Option.map (List.map (Prod.map id Lowered.blank))) =
      lowerer.blank.lowerFields members
        (arguments.map (Attempt.map Lowered.blank)) := by
  induction members generalizing arguments with
  | nil => rfl
  | cons member members inductionHypothesis =>
      cases arguments with
      | nil => rfl
      | cons argument arguments =>
          refine Attempt.map_bind argument fun value => ?_
          have sameField : Lowering.field? lowerer.blank.mappings value.blank =
              (Lowering.field? lowerer.mappings value).map Lowered.blank := by
            rw [Lowering.field?_eq lowerer.blank, Lowering.field?_eq,
              Lowered.isComplete_blank, ← blank_finish]
            split <;> rfl
          rw [sameField]
          cases Lowering.field? lowerer.mappings value with
          | none => rfl
          | some field =>
              rw [Option.map_some, ← inductionHypothesis]
              refine Attempt.map_bind (lowerer.lowerFields members arguments)
                fun rest => ?_
              cases rest <;> simp

theorem blank_lowerConstruction
    (members : List String)
    (arguments : List (Attempt Lowered)) :
    (lowerer.lowerConstruction members arguments).map Lowered.blank =
      lowerer.blank.lowerConstruction members
        (arguments.map (Attempt.map Lowered.blank)) := by
  unfold lowerConstruction
  rw [List.length_map]
  split
  · simp
  · rw [← map_blank_lowerFields]
    refine Attempt.map_bind (lowerer.lowerFields members arguments)
      fun fields => ?_
    cases fields <;> simp

/-- The attempts for several queries commute with blanking if each does. -/
theorem map_blank_visitAll
    {queries : List Query}
    (commutes : ∀ query, query ∈ queries →
      (lowerer.visit select query).map Lowered.blank =
        lowerer.blank.visit select.blank query) :
    (lowerer.visitAll select queries).map (Attempt.map Lowered.blank) =
      lowerer.blank.visitAll select.blank queries := by
  rw [visitAll_eq_map, visitAll_eq_map, List.map_map]
  exact List.map_congr_left commutes

/-- The attempt for an inner query commutes with blanking if it does for a
query. -/
theorem map_blank_visitInner
    {inner : Option Query}
    (commutes : ∀ query, inner = some query →
      (lowerer.visit select query).map Lowered.blank =
        lowerer.blank.visit select.blank query) :
    (lowerer.visitInner select inner).map (Option.map Lowered.blank) =
      lowerer.blank.visitInner select.blank inner := by
  cases inner with
  | none => rfl
  | some query =>
      rw [visitInner, visitInner, ← commutes query rfl]
      exact Attempt.map_bind (lowerer.visit select query) fun value => rfl

section

variable (builtIn : lowerer.HasBuiltInRules)

include builtIn

theorem blank_lowerMember (member : Member) (inner : Option Lowered) :
    (lowerer.lowerMember select member inner).map Lowered.blank =
      lowerer.blank.lowerMember select.blank member
        (inner.map Lowered.blank) := by
  have ruled : (lowerer.applyRules lowerer.memberRules ⟨inner, member⟩).blank =
      lowerer.blank.applyRules lowerer.blank.memberRules
        ⟨inner.map Lowered.blank, member⟩ := by
    refine lowerer.blank_applyRules ?_
    rw [builtIn.members]
    exact Rule.firstMatch?_builtInMembers_blank ⟨inner, member⟩
  cases inner with
  | none => exact congrArg pure ruled
  | some value =>
      cases value with
      | shaper entity =>
          exact lowerer.blank_bindProperty select entity member.name
      | sql node =>
          rw [lowerMember, Option.map_some, Lowered.blank_sql, lowerMember]
          split
          · simp
          · simpa using congrArg pure ruled
      | _ => simpa [lowerMember] using congrArg pure ruled

theorem blank_lowerRuleCall
    (method : Method)
    (target : Attempt (Option Lowered))
    (lowered : List Lowered)
    (arguments : List (Attempt Lowered)) :
    (lowerer.lowerRuleCall method target lowered arguments).map Lowered.blank =
      lowerer.blank.lowerRuleCall method (target.map (Option.map Lowered.blank))
        (lowered.map Lowered.blank)
        (arguments.map (Attempt.map Lowered.blank)) := by
  refine Attempt.map_bind target fun targetValue => ?_
  rw [← Attempt.map_sequence]
  refine Attempt.map_bind (Attempt.sequence arguments) fun values => ?_
  rw [Attempt.map_pure, ← List.map_append]
  refine congrArg pure (lowerer.blank_applyRules ?_)
  rw [builtIn.calls]
  exact Rule.firstMatch?_builtInCalls_blank
    ⟨targetValue, method, lowered ++ values⟩

theorem blank_lowerCall
    (method : Method)
    (accessed : Option String)
    (target : Attempt (Option Lowered))
    (arguments : List (Attempt Lowered)) :
    (lowerer.lowerCall select method accessed target arguments).map
        Lowered.blank =
      lowerer.blank.lowerCall select.blank method accessed
        (target.map (Option.map Lowered.blank))
        (arguments.map (Attempt.map Lowered.blank)) := by
  cases accessed with
  | none => exact blank_lowerRuleCall builtIn method target [] arguments
  | some name =>
      cases arguments with
      | nil => exact blank_lowerRuleCall builtIn method target [] []
      | cons first rest =>
          refine Attempt.map_bind first fun value => ?_
          have ruled := blank_lowerRuleCall builtIn method target [value] rest
          cases value with
          | shaper entity =>
              rw [Lowered.blank_shaper]
              exact lowerer.blank_bindProperty select entity name
          | _ => simpa using ruled

/-- With the built-in rules, the attempt for a query commutes with blanking. -/
theorem blank_visit (query : Query) :
    (lowerer.visit select query).map Lowered.blank =
      lowerer.blank.visit select.blank query := by
  induction query using Query.induct with
  | access inner member innerHypothesis =>
      rw [visit, visit, ← map_blank_visitInner innerHypothesis]
      exact Attempt.map_bind (lowerer.visitInner select inner)
        fun value => blank_lowerMember builtIn member value
  | call target method arguments targetHypothesis argumentsHypothesis =>
      rw [visit, visit, ← map_blank_visitInner targetHypothesis,
        ← map_blank_visitAll argumentsHypothesis]
      exact blank_lowerCall builtIn method _ _ _
  | binary op left right method valueType leftHypothesis rightHypothesis =>
      rw [visit, visit, ← leftHypothesis, ← rightHypothesis]
      refine Attempt.map_bind (lowerer.visit select left) fun leftValue => ?_
      refine Attempt.map_bind (lowerer.visit select right) fun rightValue => ?_
      exact congrArg Attempt.ofExcept
        (Lowering.blank_binary lowerer.mappings op method valueType leftValue
          rightValue)
  | unary op operand valueType inductionHypothesis =>
      rw [visit, visit, ← inductionHypothesis]
      refine Attempt.map_bind (lowerer.visit select operand) fun value => ?_
      exact congrArg pure
        (Lowering.blank_unary lowerer.mappings op valueType value)
  | constant value valueType => simp [visit]
  | parameter name valueType => simp [visit]
  | construction typeName members arguments inductionHypothesis =>
      rw [visit, visit, ← map_blank_visitAll inductionHypothesis]
      exact blank_lowerConstruction members _
  | shaper entity => simp [visit]
  | extension name children inductionHypothesis =>
      rw [visit, visit, ← map_blank_visitAll inductionHypothesis,
        ← Attempt.map_sequence]
      refine Attempt.map_bind
          (Attempt.sequence (lowerer.visitAll select children))
        fun values => ?_
      simp

/-- With the built-in rules, lowering commutes with blanking, and fails
alike. -/
theorem blank_lower (query : Query) (requireCondition : Bool) :
    (lowerer.lower select query requireCondition).map (Except.map Lowered.blank)
        Select.blank =
      lowerer.blank.lower select.blank query requireCondition := by
  by_cases tooDeep : lowerer.settings.maxDepth.toNat < query.depth
  · rw [lower, lower, settings_blank, if_pos tooDeep, if_pos tooDeep]
    rfl
  · rw [lower, lower, settings_blank, if_neg tooDeep, if_neg tooDeep,
      ← blank_visit builtIn]
    refine Prod.ext ?_ (select.blank_noteColumns _)
    cases given : (lowerer.visit select query).result with
    | error error => simp [Attempt.map, given, Except.map]
    | ok raw => simp [Attempt.map, given, Except.map, blank_finish]

end

/-- Under any two dialects, the built-in rules lower a query to results that
differ in the store types and the truth literals of mappings alone, or with the
same error, and the same columns are noted. The context may have any tables and
columns before more tables are added to it. -/
theorem lower_blank_eq
    (first second : Dialect)
    (model : EntityModel)
    (settings : Settings)
    (tables : List TableSource)
    (columns : List Sql.ColumnRef)
    (entities : List EntityType)
    (query : Query)
    (requireCondition : Bool) :
    let lowered := fun dialect : Dialect =>
      (withBuiltInRules model dialect.mappings settings).lower
        (Select.addTables ⟨dialect.mappings, tables, columns⟩ entities) query
        requireCondition
    (lowered first).1.map Lowered.blank = (lowered second).1.map Lowered.blank ∧
      (lowered first).2.columns = (lowered second).2.columns := by
  intro lowered
  have sameLowerer : (withBuiltInRules model first.mappings settings).blank =
      (withBuiltInRules model second.mappings settings).blank := by
    simp [blank, withBuiltInRules, first.blank_mappings_eq second]
  have sameSelect :
      (Select.addTables ⟨first.mappings, tables, columns⟩ entities).blank =
        (Select.addTables ⟨second.mappings, tables, columns⟩
          entities).blank := by
    rw [Select.blank_addTables, Select.blank_addTables, Select.blank,
      Select.blank, first.blank_mappings_eq second]
  have sameOutcome :
      (lowered first).map (Except.map Lowered.blank) Select.blank =
        (lowered second).map (Except.map Lowered.blank) Select.blank := by
    rw [blank_lower (hasBuiltInRules_withBuiltInRules _ _ _),
      blank_lower (hasBuiltInRules_withBuiltInRules _ _ _), sameLowerer,
      sameSelect]
  have sameAfter : (lowered first).2.blank = (lowered second).2.blank :=
    congrArg Prod.snd sameOutcome
  exact ⟨congrArg Prod.fst sameOutcome, (Select.mk.inj sameAfter).2.2⟩

end Lowerer
end QueryLowering
