import QueryLowering.Proofs.Lowering.Unsupported
import QueryLowering.Proofs.Lowering.WellFormed
import QueryLowering.Proofs.Sql.Ready

/-!
# SQL below conversions and extension nodes

Conversions to the erased type and extension nodes take the SQL of their
operands as it is, without the run of inference at the root of a result. With
the built-in rules and mappings this makes no difference for SQL that was
finished when it was built. Constants and parameters are not, nor are the values
of nullable ones: alone they receive their mapping, and below such a node they
stay without it.
-/

namespace QueryLowering

/-- The query is a constant or a parameter, or the value of one that is
nullable. -/
inductive Query.IsAtomic : Query → Prop
  | constant (value : Literal) (valueType : ValueType) :
      IsAtomic (.constant value valueType)
  | parameter (name : String) (valueType : ValueType) :
      IsAtomic (.parameter name valueType)
  | nullableValue {inner : Query} {member : Member} :
      IsAtomic inner → member.isNullableValue = true →
        IsAtomic (.access (some inner) member)

namespace Lowerer

open Sql.Node

/-- The expression is what stands in the place of a query that is taken over as
it is: under a conversion to the erased type, in an extension node, and in a
field that is a conversion to the erased type. -/
structure PassesThrough
    (lowerer : Lowerer)
    (select : Select)
    (query : Query)
    (kept : Sql.Node) : Prop where
  conversion : ∀ (target : ValueType) (requireCondition : Bool),
    target.isErased = true →
    (Query.unary .convert query target).depth ≤
      lowerer.settings.maxDepth.toNat →
    (lowerer.lower select (.unary .convert query target) requireCondition).1 =
      .ok (.convert (.sql kept) target)
  child : ∀ (name : String) (children : List Query) (index : Nat)
      (requireCondition : Bool),
    children[index]? = some query →
    (∀ child, child ∈ children →
      ∃ value, (lowerer.lower select child false).1 = .ok value) →
    (Query.extension name children).depth ≤ lowerer.settings.maxDepth.toNat →
    ∃ values : List Lowered, children.length = values.length ∧
      values[index]? = some (.sql kept) ∧
      (lowerer.lower select (.extension name children) requireCondition).1 =
        .ok (.extension name values)
  field : ∀ (typeName : String) (members : List String)
      (arguments : List Query) (index : Nat) (target : ValueType)
      (requireCondition : Bool),
    arguments[index]? = some (.unary .convert query target) →
    target.isErased = true →
    members.length = arguments.length →
    (∀ argument, argument ∈ arguments →
      ∃ value, (lowerer.lower select argument false).1 = .ok value ∧
        value.isComplete = true) →
    (Query.construction typeName members arguments).depth ≤
      lowerer.settings.maxDepth.toNat →
    ∃ values : List Lowered, arguments.length = values.length ∧
      values[index]? = some (.convert (.sql kept) target) ∧
      (lowerer.lower select (.construction typeName members arguments)
          requireCondition).1 =
        .ok (.projection (members.zip values))

variable {lowerer : Lowerer} {select : Select}

/-- A query lowers to one result alone. -/
theorem Lowers.unique
    {query : Query}
    {first second : Lowered}
    (firstLowered : lowerer.Lowers select query first)
    (secondLowered : lowerer.Lowers select query second) :
    first = second :=
  Except.ok.inj
    (firstLowered.result_visit.symm.trans secondLowered.result_visit)

/-- Where several queries lower each to the value in its place, the value in the
place of a query is what it lowers to. -/
theorem getElem?_of_lowered
    {queries : List Query}
    {values : List Lowered}
    {index : Nat}
    {query : Query}
    {value : Lowered}
    (sameLength : queries.length = values.length)
    (lowered : ∀ pair, pair ∈ queries.zip values →
      lowerer.Lowers select pair.1 pair.2)
    (known : queries[index]? = some query)
    (queryLowered : lowerer.Lowers select query value) :
    values[index]? = some value := by
  obtain ⟨inQueries, _⟩ := List.getElem?_eq_some_iff.1 known
  have inValues : index < values.length := sameLength ▸ inQueries
  have valueKnown : values[index]? = some values[index] :=
    List.getElem?_eq_getElem inValues
  have paired : (queries.zip values)[index]? = some (query, values[index]) :=
    List.getElem?_zip_eq_some.2 ⟨known, valueKnown⟩
  rw [valueKnown, queryLowered.unique (lowered _ (List.mem_of_getElem? paired))]

/-- A conversion of SQL to the erased type is kept over the SQL as it is. -/
theorem Lowers.convert_of_isErased
    {query : Query}
    {node : Sql.Node}
    {target : ValueType}
    (erased : target.isErased = true)
    (lowered : lowerer.Lowers select query (.sql node)) :
    lowerer.Lowers select (.unary .convert query target)
      (.convert (.sql node) target) := by
  have converted : lowerer.Lowers select (.unary .convert query target) _ :=
    .unary lowered
  simpa [Lowering.unary, Lowered.isComplete, erased] using converted

/-- The SQL that a query lowers to in place passes through. -/
theorem Lowers.passesThrough
    {query : Query}
    {node : Sql.Node}
    (lowered : lowerer.Lowers select query (.sql node)) :
    lowerer.PassesThrough select query node where
  conversion target requireCondition erased shallow :=
    (lower_eq_ok_iff _ _ _ _ _).2
      ⟨shallow, _, lowered.convert_of_isErased erased, rfl⟩
  child name children index requireCondition known childrenLower shallow := by
    have each : ∀ child, child ∈ children →
        ∃ value, lowerer.Lowers select child value := by
      intro child member
      obtain ⟨value, given⟩ := childrenLower child member
      obtain ⟨_, raw, childLowered, _⟩ := (lower_eq_ok_iff _ _ _ _ _).1 given
      exact ⟨raw, childLowered⟩
    obtain ⟨values, sameLength, allLowered⟩ := exists_lowered each
    refine ⟨values, sameLength,
      getElem?_of_lowered sameLength allLowered known lowered, ?_⟩
    exact (lower_eq_ok_iff _ _ _ _ _).2
      ⟨shallow, _, .extension sameLength allLowered, rfl⟩
  field typeName members arguments index target requireCondition known erased
    sameCount argumentsLower shallow := by
    have each : ∀ argument, argument ∈ arguments →
        ∃ value, lowerer.Lowers select argument value := by
      intro argument member
      obtain ⟨value, given, _⟩ := argumentsLower argument member
      obtain ⟨_, raw, argumentLowered, _⟩ := (lower_eq_ok_iff _ _ _ _ _).1 given
      exact ⟨raw, argumentLowered⟩
    obtain ⟨raws, sameLength, allLowered⟩ := exists_lowered each
    have inPlace := getElem?_of_lowered sameLength allLowered known
      (lowered.convert_of_isErased erased)
    have complete : ∀ raw, raw ∈ raws → raw.isComplete = true := by
      intro raw member
      obtain ⟨argument, paired⟩ := exists_paired sameLength member
      obtain ⟨value, given, valueComplete⟩ :=
        argumentsLower argument (List.of_mem_zip paired).1
      obtain ⟨_, other, argumentLowered, rfl⟩ :=
        (lower_eq_ok_iff _ _ _ _ _).1 given
      obtain rfl := argumentLowered.unique (allLowered _ paired)
      simpa using valueComplete
    have nonempty : members ≠ [] := by
      rintro rfl
      rw [List.eq_nil_of_length_eq_zero sameCount.symm] at known
      cases known
    refine ⟨raws.map (lowerer.finish false), by simpa using sameLength, ?_, ?_⟩
    · simp [inPlace, finish]
    · exact (lower_eq_ok_iff _ _ _ _ _).2 ⟨shallow, _,
        .construction nonempty sameCount sameLength allLowered complete, rfl⟩

/-- A constant, a parameter or the value of one has no mapping when it is
lowered. -/
theorem Lowers.unmapped_of_isAtomic
    {query : Query}
    {result : Lowered}
    (lowered : lowerer.Lowers select query result)
    (atomic : query.IsAtomic) :
    ∃ node, result = .sql node ∧ node.mapping = none := by
  induction atomic generalizing result with
  | constant value valueType =>
      cases lowered
      exact ⟨_, rfl, rfl⟩
  | parameter name valueType =>
      cases lowered
      exact ⟨_, rfl, rfl⟩
  | @nullableValue inner member _ isValue inductionHypothesis =>
      cases lowered with
      | boundMember innerLowered _ =>
          obtain ⟨_, ⟨⟩, _⟩ := inductionHypothesis innerLowered
      | nullableValue innerLowered _ =>
          obtain ⟨_, ⟨⟩, unmapped⟩ := inductionHypothesis innerLowered
          exact ⟨_, rfl,
            by simpa [Sql.Node.toNonNullable, Sql.Node.mapping] using unmapped⟩
      | member innerLowered _ notValue =>
          obtain ⟨_, rfl, _⟩ := inductionHypothesis innerLowered
          rw [notValue rfl] at isValue
          cases isValue

section

variable (covers : lowerer.mappings.Covers)

include covers

theorem isMappedOrErased_of_bindProperty
    {entity : EntityRef}
    {name : String}
    {node : Sql.Node}
    (sameMappings : select.mappings = lowerer.mappings)
    (bound : (lowerer.bindProperty select entity name).result =
      .ok (.sql node)) :
    node.IsMappedOrErased := by
  obtain ⟨_, property, column, _, _, _, isColumn⟩ :=
    (lowerer.result_bindProperty_eq_ok_iff select entity name _).1 bound
  obtain rfl := Lowered.sql.inj isColumn
  cases found : lowerer.mappings.find property.valueType with
  | none => exact .inr (covers.total _ found)
  | some mapping =>
      left
      simp [Select.columnNode, Select.propertyMapping, Sql.Node.column,
        Sql.Node.mapping, sameMappings, found]

theorem isMappedOrErased_of_applyRules
    {rules : List (Rule α)}
    {use : α}
    {node : Sql.Node}
    (given : lowerer.applyRules rules use = .sql node) :
    node.IsMappedOrErased := by
  rcases lowerer.applyRules_cases rules use with
    nothing | ⟨matched, _, inferred⟩
  · rw [nothing] at given
    cases given
  · obtain rfl := Lowered.sql.inj (given.symm.trans inferred)
    exact infer_isMappedOrErased covers matched

theorem isMappedOrErased_of_binary
    {op : Query.BinaryOp}
    {method : Option Method}
    {valueType : ValueType}
    {left right : Lowered}
    {node : Sql.Node}
    (combined :
      Lowering.binary lowerer.mappings op method valueType left right =
        .ok (.sql node)) :
    node.IsMappedOrErased := by
  rcases Lowering.binary_cases combined with
    ⟨⟨⟩⟩ | ⟨leftNode, rightNode, _, _, _, ⟨⟩, ⟨_, concatenated⟩ | ⟨_, rfl⟩⟩
  · obtain ⟨mapping, _, rfl⟩ :=
      (Lowering.concatenation_eq_ok_iff _ _ _ _).1 concatenated
    exact .inl (by simp)
  · rcases Lowering.combination_cases lowerer.mappings op valueType leftNode
      rightNode with
      ⟨_, _, _, _, tested⟩ | ⟨_, joined⟩ | ⟨_, applied⟩
    · rw [tested]
      exact infer_isMappedOrErased covers _
    · rw [joined]
      exact infer_isMappedOrErased covers _
    · rw [applied]
      exact infer_isMappedOrErased covers _

theorem isMappedOrErased_of_unary
    {op : Query.UnaryOp}
    {valueType : ValueType}
    {operand : Lowered}
    {node : Sql.Node}
    (given : Lowering.unary lowerer.mappings op valueType operand = .sql node) :
    node.IsMappedOrErased := by
  have ofInferred : ∀ built : Sql.Node,
      Lowering.unary lowerer.mappings op valueType operand =
        .sql (built.infer lowerer.mappings) →
      node.IsMappedOrErased := by
    intro built inferred
    obtain rfl := Lowered.sql.inj (given.symm.trans inferred)
    exact infer_isMappedOrErased covers built
  rcases Lowering.unary_cases lowerer.mappings op valueType operand with
    nothing | ⟨_, _, kept⟩ | ⟨_, _, _, _, cast⟩ | ⟨_, _, _, negated⟩ |
      ⟨_, _, _, negated⟩
  · rw [nothing] at given
    cases given
  · rw [kept] at given
    cases given
  · exact ofInferred _ cast
  · exact ofInferred _ negated
  · exact ofInferred _ negated

/-- Everything but a constant, a parameter and the value of one has its mapping
when it is lowered, if it is not erased. -/
theorem Lowers.isMappedOrErased
    {query : Query}
    {result : Lowered}
    {node : Sql.Node}
    (sameMappings : select.mappings = lowerer.mappings)
    (lowered : lowerer.Lowers select query result)
    (notAtomic : ¬ query.IsAtomic)
    (isSql : result = .sql node) :
    node.IsMappedOrErased := by
  induction lowered generalizing node with
  | constant value valueType =>
      exact absurd (.constant value valueType) notAtomic
  | parameter name valueType =>
      exact absurd (.parameter name valueType) notAtomic
  | staticMember | member | call =>
      exact isMappedOrErased_of_applyRules covers isSql
  | boundMember _ bound | accessor _ _ bound =>
      subst isSql
      exact isMappedOrErased_of_bindProperty covers sameMappings bound
  | nullableValue _ isValue inductionHypothesis =>
      obtain rfl := Lowered.sql.inj isSql
      have inner := inductionHypothesis
        (fun atomic => notAtomic (.nullableValue atomic isValue)) rfl
      simpa [IsMappedOrErased, toNonNullable, Sql.Node.mapping,
        Sql.Node.valueType] using inner
  | binary _ _ combined =>
      subst isSql
      exact isMappedOrErased_of_binary covers combined
  | unary => exact isMappedOrErased_of_unary covers isSql
  | shaper | construction | incompleteArgument | noConstruction | extension =>
      cases isSql

/-- Lowering builds ready expressions alone, if the mappings of the lowerer
cover all kinds. -/
theorem isReady_invariant :
    lowerer.NodeInvariant select (fun _ => True)
      (IsReady lowerer.mappings) where
  constant value valueType := isReady_leaf _ rfl
  parameter name valueType := isReady_leaf _ rfl
  fragment sql valueType := isReady_leaf _ rfl
  bound entity name node _ bound := by
    obtain ⟨_, property, column, _, _, _, isColumn⟩ :=
      (lowerer.result_bindProperty_eq_ok_iff select entity name _).1 bound
    obtain rfl := Lowered.sql.inj isColumn
    exact isReady_leaf _ rfl
  nonNullable inner member node _ _ ready := isReady_toNonNullable covers ready
  inferred node ready := isReady_infer ready
  nullTest operand negated ready := isReady_infer_apply rfl ready
  comparison op left right _ leftReady rightReady :=
    isReady_infer_combine covers rfl leftReady rightReady
  combination op left right method valueType leftNode rightNode _ _ leftReady
    rightReady :=
    isReady_infer_combine covers rfl leftReady rightReady
  junction op left right method valueType leftNode rightNode _ _ leftReady
    rightReady :=
    isReady_infer_combine covers rfl
      (isReady_toCondition (isReady_infer leftReady))
      (isReady_toCondition (isReady_infer rightReady))
  concatenation left right node _ _ concatenated := by
    obtain ⟨mapping, _, rfl⟩ :=
      (Lowering.concatenation_eq_ok_iff _ _ _ _).1 concatenated
    exact isReady_of_mapped (by simp)
  cast operand valueType _ ready := isReady_infer_apply rfl ready
  not operand valueType node _ ready :=
    isReady_infer_apply rfl (isReady_toCondition (isReady_infer ready))
  negate operand valueType ready := isReady_infer_apply rfl ready
  function name arguments valueType argumentsHold _ := by
    refine isReady_infer_call rfl ?_
    intro argument member
    rcases argumentsHold argument member with ready | ⟨start, ready, rfl⟩
    · exact isSettled_infer ready
    · exact isSettled_infer_combine covers rfl ready (isReady_leaf _ rfl)

end

/-- SQL that a query lowers to under the built-in rules and mappings passes
through conversions to the erased type, extension nodes and fields that are such
conversions, up to the run of inference at the root. That run has nothing to do
exactly when the SQL has a mapping already or is erased. If columns take their
mappings from the same source, this is so unless the query is a constant, a
parameter or the value of one, of a type that is not erased. -/
theorem lower_passesThrough
    (dialect : Dialect)
    (model : EntityModel)
    (settings : Settings)
    (select : Select)
    (query : Query)
    (node : Sql.Node)
    (lowered :
      ((withBuiltInRules model dialect.mappings settings).lower
        select query false).1 = .ok (.sql node)) :
    ∃ kept,
      (withBuiltInRules model dialect.mappings settings).PassesThrough select
        query kept ∧
      kept.infer dialect.mappings = node ∧
      (kept = node ↔ kept.IsMappedOrErased) ∧
      (select.mappings = dialect.mappings →
        (kept = node ↔ (query.IsAtomic → node.valueType.kind = .object))) := by
  have covers := dialect.mappings_covers
  obtain ⟨_, raw, given, rfl⟩ := (lower_eq_sql_iff _ _ _ _).1 lowered
  have rawLowered := lowers_of_result_visit _ _ _ _ given
  have invariant :
      (withBuiltInRules model dialect.mappings settings).NodeInvariant select
        (fun _ => True) (IsReady dialect.mappings) :=
    isReady_invariant covers
  have everywhere := invariant.everywhere
    (hasBuiltInRules_withBuiltInRules model dialect.mappings settings)
    (fun _ _ => trivial)
    rawLowered
  have finished : raw = raw.infer dialect.mappings ↔ raw.IsMappedOrErased :=
    eq_comm.trans (infer_eq_self_iff_of_isReady covers everywhere.root)
  refine ⟨raw, rawLowered.passesThrough, rfl, finished, fun sameMappings => ?_⟩
  rw [valueType_infer]
  refine finished.trans ⟨?_, fun ifAtomic => ?_⟩
  · rintro (mapped | erased) atomic
    · obtain ⟨_, ⟨⟩, unmapped⟩ := rawLowered.unmapped_of_isAtomic atomic
      rw [unmapped] at mapped
      cases mapped
    · exact erased
  · by_cases atomic : query.IsAtomic
    · exact .inr (ifAtomic atomic)
    · exact rawLowered.isMappedOrErased covers sameMappings atomic rfl

/-- A comparison of a parameter is the same alone, under a conversion and in an
extension node. -/
theorem lower_passesThrough_comparison :
    let lowerer := withBuiltInRules .empty Dialect.postgres.mappings .standard
    let select := Select.empty Dialect.postgres.mappings
    let adult := Query.binary .greaterThan (.parameter "age" .int32)
      (.constant (.integer 18) .int32) none .boolean
    let node :=
      (Sql.Node.binary .greaterThan (.parameter "age" .int32)
        (.constant (.integer 18) .int32)
        .boolean).infer Dialect.postgres.mappings
    (lowerer.lower select adult false).1 = .ok (.sql node) ∧
      (lowerer.lower select (.unary .convert adult .object) true).1 =
        .ok (.convert (.sql node) .object) ∧
      (lowerer.lower select (.extension "Include" [adult]) true).1 =
        .ok (.extension "Include" [.sql node]) := by
  intro lowerer select adult node
  have lowered : (lowerer.lower select adult false).1 = .ok (.sql node) := by
    cbv
  obtain ⟨kept, passes, _, _, same⟩ :=
    lower_passesThrough .postgres .empty .standard select adult node lowered
  have notAtomic : ¬ adult.IsAtomic := by
    intro atomic
    unfold adult at atomic
    cases atomic
  obtain rfl : kept = node := (same rfl).2 fun atomic => absurd atomic notAtomic
  refine ⟨lowered, passes.conversion .object true rfl (by cbv), ?_⟩
  obtain ⟨values, sameLength, inPlace, given⟩ := passes.child "Include" [adult]
    0 true rfl (by simpa using ⟨_, lowered⟩) (by cbv)
  obtain ⟨value, rfl⟩ := List.length_eq_one_iff.1 sameLength.symm
  obtain rfl := Option.some.inj inPlace
  exact given

/-- A constant has its mapping alone, but not under a conversion to the erased
type or in an extension node. -/
theorem lower_passesThrough_bareConstant :
    let lowerer := withBuiltInRules .empty Dialect.ansi.mappings .standard
    let select := Select.empty Dialect.ansi.mappings
    let five := Query.constant (.integer 5) .int32
    let mapping := TypeMapping.ofStoreType "integer" .int32
    let bare := Sql.Node.leaf ⟨.int32, none, false⟩ (.constant (.integer 5))
    let mapped :=
      Sql.Node.leaf ⟨.int32, some mapping, false⟩ (.constant (.integer 5))
    (lowerer.lower select five false).1 = .ok (.sql mapped) ∧
      (lowerer.lower select (.unary .convert five .object) false).1 =
        .ok (.convert (.sql bare) .object) ∧
      (lowerer.lower select (.extension "Include" [five]) false).1 =
        .ok (.extension "Include" [.sql bare]) ∧
      bare ≠ mapped := by
  intro lowerer select five mapping bare mapped
  refine ⟨by cbv, by cbv, by cbv, ?_⟩
  intro same
  have sameMapping : none = some mapping := congrArg Sql.Node.mapping same
  cases sameMapping

end Lowerer
end QueryLowering
