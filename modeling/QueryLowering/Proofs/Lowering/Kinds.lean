import QueryLowering.Proofs.Lowering.Mapped

/-!
# Results have the kinds of their queries

A query declares the type of every member, call and operator on its own. Where
each declares the kind that lowering gives it, SQL results are of the kind of
the query. The value type of a node is never changed once it is built, but a
truth test at the root is built around the result: it is a truth value, and
tests only what is mapped as one.

A mapping tells the kind of its node unless the node is the null constant, and
the null constant has no mapping before the root is finished.
-/

namespace QueryLowering

/-- The kind that a node of a query declares is the one that lowering gives it:

* A property of an entity has the kind that the model says, read as a member or
  through the property accessor.
* The value of a nullable expression has its kind, and its presence is a truth
  value.
* Equality and searches in texts are truth values, as are comparisons, junctions
  and negations.
* The current time is a point in time, and joined texts are a text. -/
def Query.DeclaresKind (model : EntityModel) : Query → Prop
  | .access inner member =>
      (∀ entity property, inner = some (.shaper entity) →
        model.property? entity.entityType member.name = some property →
        member.valueType.kind = property.valueType.kind) ∧
      (∀ query, inner = some query → member.isNullableValue = true →
        member.valueType.kind = query.valueType.kind) ∧
      (member.declaringType.nullable = true → member.name = "has_value" →
        member.valueType.kind = .boolean) ∧
      (inner = none → member.declaringType.kind = .dateTime →
        member.name = "now" → member.valueType.kind = .dateTime)
  | .call _ method arguments =>
      (∀ entity rest name property, arguments = .shaper entity :: rest →
        accessedProperty? method arguments = some name →
        model.property? entity.entityType name = some property →
        method.returnType.kind = property.valueType.kind) ∧
      (method.kind = .instanceMethod → arguments.length = 1 →
        (method.name = "equals" ∨ method.declaringKind = .string ∧
          method.name ∈ ["starts_with", "ends_with", "contains"]) →
        method.returnType.kind = .boolean)
  | .binary op _ _ method valueType =>
      ((op.isComparison = true ∨ op.isLogical = true) →
        valueType.kind = .boolean) ∧
      (Lowering.joinsTexts op method = true → valueType.kind = .string)
  | .unary op _ valueType => op = .not → valueType.kind = .boolean
  | .constant _ _ | .parameter _ _ | .construction _ _ _ | .shaper _
  | .extension _ _ => True

theorem Query.declaresTruth_of_declaresKind
    {model : EntityModel}
    {query : Query}
    (declared : query.DeclaresKind model) :
    query.DeclaresTruth := by
  cases query with
  | binary op left right method valueType => exact declared.1
  | unary op operand valueType => exact declared
  | _ => trivial

namespace Sql
namespace Node

/-- A node of a kind as it stands before the root is finished: the null constant
has no mapping yet. -/
structure IsRawOf (node : Node) (kind : Kind) : Prop where
  ofKind : node.valueType.kind = kind
  unmapped : node.isNullConstant = true → node.mapping = none

theorem isRawOf_of_not_null
    {node : Node}
    {kind : Kind}
    (ofKind : node.valueType.kind = kind)
    (notNull : node.isNullConstant = false) :
    node.IsRawOf kind := by
  refine ⟨ofKind, fun isNull => ?_⟩
  rw [notNull] at isNull
  cases isNull

/-- Inference keeps the kind of whatever is not the null constant. -/
theorem isRawOf_infer
    {source : MappingSource}
    {node : Node}
    {kind : Kind}
    (ofKind : node.valueType.kind = kind)
    (notNull : node.isNullConstant = false) :
    (node.infer source).IsRawOf kind :=
  isRawOf_of_not_null (by rw [valueType_infer, ofKind])
    (by rw [isNullConstant_infer, notNull])

theorem isRawOf_toNonNullable
    {node : Node}
    {kind : Kind}
    (raw : node.IsRawOf kind) :
    node.toNonNullable.IsRawOf kind := by
  refine ⟨?_, ?_⟩
  · rw [toNonNullable, Node.valueType, header_withHeader]
    exact raw.ofKind
  · rw [toNonNullable, isNullConstant_withHeader, Node.mapping,
      header_withHeader]
    exact raw.unmapped

/-- Where inference maps a raw node, the mapping is of its kind, or the node is
a condition. -/
theorem kind_mapping_infer
    {source : MappingSource}
    {node : Node}
    {kind : Kind}
    {mapping : TypeMapping}
    (covers : source.Covers)
    (mappable : node.IsMappable)
    (raw : node.IsRawOf kind)
    (value : node.isCondition = false)
    (known : (node.infer source).mapping = some mapping) :
    mapping.kind = kind := by
  rcases ((wellMapped_infer covers mappable).root.mapped mapping known).2 with
    isNull | ofKind
  · rw [isNullConstant_infer] at isNull
    -- a null constant takes its mapping from the source alone, which maps to
    -- the kind
    obtain ⟨header, rfl⟩ := eq_leaf_of_isNullConstant isNull
    have unmapped : header.mapping = none := raw.unmapped isNull
    have found : (header.resolve source none).mapping = some mapping := by
      rw [infer_leaf] at known
      exact known
    rw [Header.mapping_resolve_of_value source none unmapped value,
      Option.none_or] at found
    exact (covers.ofKind _ mapping found).1.trans raw.ofKind
  · rw [ofKind, valueType_infer, raw.ofKind]

/-- A raw node keeps its kind when it is made a condition. -/
theorem kind_toCondition_infer
    {source : MappingSource}
    {node : Node}
    {kind : Kind}
    (canonical : TypeMapping)
    (covers : source.Covers)
    (mappable : node.IsMappable)
    (raw : node.IsRawOf kind) :
    ((node.infer source).toCondition canonical).valueType.kind = kind := by
  have inferredKind : (node.infer source).valueType.kind = kind := by
    rw [valueType_infer, raw.ofKind]
  unfold toCondition
  rw [isCondition_infer]
  split
  · exact inferredKind
  · next value =>
      split
      · next mapping known =>
          split
          · next isTruth =>
              have sameKind := kind_mapping_infer covers mappable raw
                (by simpa using value) known
              rw [valueType_withMapping, ← sameKind, isTruth]
              rfl
          · exact inferredKind
      · exact inferredKind

end Node
end Sql

namespace Rule

variable {source : MappingSource} {node : Sql.Node}

/-- The built-in rules for members give the declared kind. -/
theorem isRawOf_builtInMember
    {use : MemberUse}
    (presence : use.member.declaringType.nullable = true →
      use.member.name = "has_value" → use.member.valueType.kind = .boolean)
    (now : use.inner = none → use.member.declaringType.kind = .dateTime →
      use.member.name = "now" → use.member.valueType.kind = .dateTime)
    (matched : firstMatch? builtInMembers use = some node) :
    (node.infer source).IsRawOf use.member.valueType.kind := by
  rcases builtInMember_cases matched with given | given | given
  · obtain ⟨nullable, named, inner, _, rfl⟩ :=
      (hasValue_eq_some_iff use node).1 given
    exact Sql.Node.isRawOf_infer (presence nullable named).symm rfl
  · obtain ⟨_, _, inner, _, rfl⟩ := (stringLength_eq_some_iff use node).1 given
    exact Sql.Node.isRawOf_infer rfl rfl
  · obtain ⟨ofTime, ⟨absent, named, rfl⟩ | ⟨keyword, operand, _, _, rfl⟩⟩ :=
      (dateTimeMember_eq_some_iff use node).1 given
    · exact Sql.Node.isRawOf_infer (now absent ofTime named).symm rfl
    · exact Sql.Node.isRawOf_infer rfl rfl

/-- A text is searched for by one of three methods. -/
theorem mem_of_likePattern?
    {name text pattern : String}
    (known : likePattern? name text = some pattern) :
    name ∈ ["starts_with", "ends_with", "contains"] := by
  unfold likePattern? at known
  split at known
  · simp
  · simp
  · simp
  · cases known

/-- The built-in rules for calls give the declared kind. -/
theorem isRawOf_builtInCall
    {use : CallUse}
    (truth : use.method.kind = .instanceMethod → use.arguments.length = 1 →
      (use.method.name = "equals" ∨ use.method.declaringKind = .string ∧
        use.method.name ∈ ["starts_with", "ends_with", "contains"]) →
      use.method.returnType.kind = .boolean)
    (matched : firstMatch? builtInCalls use = some node) :
    (node.infer source).IsRawOf use.method.returnType.kind := by
  have oneArgument : ∀ argument : Sql.Node,
      use.onlyArgumentSql? = some argument →
      use.arguments.length = 1 := by
    intro argument known
    obtain ⟨value, only, _⟩ :=
      (CallUse.onlyArgumentSql?_eq_some_iff use argument).1 known
    simp [only]
  rcases builtInCall_cases matched with given | given | given
  · obtain ⟨ofInstance, named, left, right, _, rightKnown, rfl⟩ :=
      (equals_eq_some_iff use node).1 given
    have isTruth := truth ofInstance (oneArgument right rightKnown) (.inl named)
    exact Sql.Node.isRawOf_infer isTruth.symm rfl
  · obtain ⟨ofInstance, ofText, target, text, argument, pattern, _,
        argumentKnown, _, _, patternKnown, rfl⟩ :=
      (stringSearch_eq_some_iff use node).1 given
    have isTruth := truth ofInstance (oneArgument argument argumentKnown)
      (.inr ⟨ofText, mem_of_likePattern? patternKnown⟩)
    exact Sql.Node.isRawOf_infer isTruth.symm rfl
  · obtain ⟨function, leading, rest, _, _, _, _, rfl⟩ :=
      (functionCall_eq_some_iff use node).1 given
    exact Sql.Node.isRawOf_infer rfl rfl

end Rule

namespace Lowerer

variable {lowerer : Lowerer} {select : Select}

/-- What rules give for a use is SQL of the kind that all their matches have. -/
theorem isRawOf_applyRules
    {rules : List (Rule α)}
    {use : α}
    {node : Sql.Node}
    {kind : Kind}
    (matched : ∀ found, Rule.firstMatch? rules use = some found →
      (found.infer lowerer.mappings).IsRawOf kind)
    (given : lowerer.applyRules rules use = .sql node) :
    node.IsRawOf kind := by
  rcases lowerer.applyRules_cases rules use with
    nothing | ⟨found, known, result⟩
  · rw [nothing] at given
    cases given
  · rw [result] at given
    obtain rfl := Lowered.sql.inj given
    exact matched found known

/-- A bound property has the kind that the model says. -/
theorem isRawOf_bindProperty
    {entity : EntityRef}
    {name : String}
    {node : Sql.Node}
    {kind : Kind}
    (declared : ∀ property,
      lowerer.model.property? entity.entityType name = some property →
      kind = property.valueType.kind)
    (bound : (lowerer.bindProperty select entity name).result =
      .ok (.sql node)) :
    node.IsRawOf kind := by
  obtain
      ⟨entityType, property, column, entityKnown, propertyKnown, _, isColumn⟩ :=
    (lowerer.result_bindProperty_eq_ok_iff select entity name _).1 bound
  obtain rfl := Lowered.sql.inj isColumn
  have sameKind := declared property
    (by simp [EntityModel.property?, entityKnown, propertyKnown])
  exact Sql.Node.isRawOf_of_not_null sameKind.symm rfl

/-- A binary operator gives a node of the declared kind. -/
theorem isRawOf_binary
    {op : Query.BinaryOp}
    {left right : Query}
    {method : Option Method}
    {valueType : ValueType}
    {leftValue rightValue : Lowered}
    {node : Sql.Node}
    (declared :
      (Query.binary op left right method valueType).DeclaresKind lowerer.model)
    (combined :
      Lowering.binary lowerer.mappings op method valueType leftValue
          rightValue =
        .ok (.sql node)) :
    node.IsRawOf valueType.kind := by
  obtain ⟨truth, text⟩ := declared
  rcases Lowering.binary_cases combined with
    nothing | ⟨leftNode, rightNode, built, _, _, isBuilt,
      ⟨joins, concatenated⟩ | ⟨_, rfl⟩⟩
  · cases nothing
  · obtain rfl := Lowered.sql.inj isBuilt
    obtain ⟨mapping, _, rfl⟩ :=
      (Lowering.concatenation_eq_ok_iff _ _ _ _).1 concatenated
    exact Sql.Node.isRawOf_of_not_null (text joins).symm rfl
  · obtain rfl := Lowered.sql.inj isBuilt
    rcases Lowering.combination_cases lowerer.mappings op valueType leftNode
      rightNode with
      ⟨operand, negated, _, equality, tested⟩ | ⟨_, joined⟩ | ⟨_, applied⟩
    · have isComparison : op.isComparison = true := by
        cases op <;> first | rfl | cases equality
      rw [tested]
      exact Sql.Node.isRawOf_infer (truth (.inl isComparison)).symm rfl
    · rw [joined]
      exact Sql.Node.isRawOf_infer rfl rfl
    · rw [applied]
      exact Sql.Node.isRawOf_infer rfl rfl

/-- A unary operator gives a node of the declared kind. -/
theorem isRawOf_unary
    {op : Query.UnaryOp}
    {valueType : ValueType}
    {value : Lowered}
    {node : Sql.Node}
    (given : Lowering.unary lowerer.mappings op valueType value = .sql node) :
    node.IsRawOf valueType.kind := by
  rcases Lowering.unary_cases lowerer.mappings op valueType value with
    result | ⟨_, _, result⟩ | ⟨_, _, _, _, result⟩ | ⟨_, _, _, result⟩ |
      ⟨_, _, _, result⟩
  · rw [result] at given
    cases given
  · rw [result] at given
    cases given
  all_goals
    rw [result] at given
    obtain rfl := Lowered.sql.inj given
    exact Sql.Node.isRawOf_infer rfl rfl

/-- With the built-in rules, whatever SQL a query lowers to is of the kind of
the query, if every node of the query declares its kind. -/
theorem Lowers.isRawOf
    (builtIn : lowerer.HasBuiltInRules)
    {query : Query}
    {result : Lowered}
    {node : Sql.Node}
    (declared : query.Everywhere (Query.DeclaresKind lowerer.model))
    (lowered : lowerer.Lowers select query result)
    (isSql : result = .sql node) :
    node.IsRawOf query.valueType.kind := by
  induction lowered generalizing node with
  | constant value valueType =>
      obtain rfl := Lowered.sql.inj isSql
      exact ⟨rfl, fun _ => rfl⟩
  | parameter name valueType =>
      obtain rfl := Lowered.sql.inj isSql
      exact ⟨rfl, fun _ => rfl⟩
  | staticMember member =>
      obtain ⟨_, _, presence, now⟩ := declared.root
      refine isRawOf_applyRules (fun found matched => ?_) isSql
      rw [builtIn.members] at matched
      exact Rule.isRawOf_builtInMember presence (fun _ => now rfl) matched
  | boundMember inner bound =>
      obtain rfl := inner.eq_shaper
      rw [isSql] at bound
      exact isRawOf_bindProperty
        (fun property => declared.root.1 _ property rfl) bound
  | @nullableValue inner innerNode member _ isValue inductionHypothesis =>
      have innerRaw :=
        inductionHypothesis (declared.child (by simp [Query.children])) rfl
      have sameKind : member.valueType.kind = inner.valueType.kind :=
        declared.root.2.1 inner rfl isValue
      obtain rfl := Lowered.sql.inj isSql
      rw [Query.valueType, sameKind]
      exact Sql.Node.isRawOf_toNonNullable innerRaw
  | member _ _ _ _ =>
      obtain ⟨_, _, presence, _⟩ := declared.root
      refine isRawOf_applyRules (fun found matched => ?_) isSql
      rw [builtIn.members] at matched
      exact Rule.isRawOf_builtInMember presence (by rintro ⟨⟩) matched
  | accessor accessed first bound _ =>
      obtain rfl := first.eq_shaper
      rw [isSql] at bound
      exact isRawOf_bindProperty
        (fun property => declared.root.1 _ _ _ property rfl accessed) bound
  | call _ _ sameLength _ _ _ _ =>
      obtain ⟨_, truth⟩ := declared.root
      refine isRawOf_applyRules (fun found matched => ?_) isSql
      rw [builtIn.calls] at matched
      refine Rule.isRawOf_builtInCall ?_ matched
      rw [← sameLength]
      exact truth
  | binary _ _ combined _ _ =>
      rw [isSql] at combined
      exact isRawOf_binary declared.root combined
  | unary _ _ => exact isRawOf_unary isSql
  | shaper | construction | incompleteArgument | noConstruction | extension =>
      cases isSql

/-- With the built-in rules and mappings, a query lowers to SQL of its own kind,
if each of its nodes declares the kind that lowering gives it. -/
theorem lower_keepsKind
    (dialect : Dialect)
    (model : EntityModel)
    (settings : Settings)
    (tables : List TableSource)
    (columns : List Sql.ColumnRef)
    (query : Query)
    (requireCondition : Bool)
    (node : Sql.Node)
    (declared : query.Everywhere (Query.DeclaresKind model))
    (lowered : ((withBuiltInRules model dialect.mappings settings).lower
      ⟨dialect.mappings, tables, columns⟩ query requireCondition).1 =
      .ok (.sql node)) :
    node.valueType.kind = query.valueType.kind := by
  have covers := dialect.mappings_covers
  have builtIn :=
    hasBuiltInRules_withBuiltInRules model dialect.mappings settings
  obtain ⟨_, raw, given, finished⟩ := (lower_eq_ok_iff _ _ _ _ _).1 lowered
  have everywhere := (isMappable_invariant _ _ covers rfl).everywhere builtIn
    (declared.mono fun _ => Query.declaresTruth_of_declaresKind) given
  cases raw with
  | sql rawNode =>
      have isRaw := given.isRawOf builtIn declared rfl
      rw [finish_sql] at finished
      obtain rfl := Lowered.sql.inj finished
      split
      · exact Sql.Node.kind_toCondition_infer _ covers everywhere.root isRaw
      · rw [Sql.Node.valueType_infer, isRaw.ofKind]
  | _ => cases finished

/-- The value of a nullable flag is a truth value, and so is the test of it. -/
theorem lower_keepsKind_flag :
    let active : Property := ⟨"Active", "active", .orNull .boolean, none⟩
    let model : EntityModel := ⟨[⟨"User", "users", [active]⟩]⟩
    let tables : List TableSource := [⟨"u", "users", "User", ⟨0⟩⟩]
    let flag := Query.access (some (.shaper ⟨"User", ⟨0⟩⟩))
      ⟨.object, "Active", .orNull .boolean⟩
    let value := Query.access (some flag) ⟨.orNull .boolean, "value", .boolean⟩
    let bit := Dialect.sqlServer.booleanMapping
    let node := Sql.Node.combine ⟨.boolean, some bit, true⟩ .equal
      (.leaf ⟨.boolean, some bit, false⟩ (.column ⟨"u", "active"⟩)) (.truth bit)
    value.Everywhere (Query.DeclaresKind model) ∧
      ((withBuiltInRules model Dialect.sqlServer.mappings .standard).lower
          ⟨Dialect.sqlServer.mappings, tables, []⟩ value true).1 =
        .ok (.sql node) ∧
      node.valueType.kind = value.valueType.kind := by
  intro active model tables flag value bit node
  have flagDeclared : flag.DeclaresKind model := by
    refine ⟨?_, ?_, ?_, ?_⟩
    · rintro _ property ⟨⟩ known
      have found : model.property? "User" "Active" = some active := by cbv
      obtain rfl : active = property := Option.some.inj (found.symm.trans known)
      rfl
    · rintro _ _ ⟨⟩
    · rintro ⟨⟩
    · rintro ⟨⟩
  have valueDeclared : value.DeclaresKind model := by
    refine ⟨?_, ?_, ?_, ?_⟩
    · intro _ _ isShaper
      simp [flag] at isShaper
    · rintro _ ⟨⟩ _
      rfl
    · intro _ named
      exact absurd named (by decide)
    · rintro ⟨⟩
  have shaperDeclared :
      (Query.shaper ⟨"User", ⟨0⟩⟩).Everywhere (Query.DeclaresKind model) :=
    (Tree.everywhere_iff _).2 ⟨trivial, by rintro _ ⟨⟩⟩
  have flagEverywhere : flag.Everywhere (Query.DeclaresKind model) :=
    (Tree.everywhere_iff flag).2
      ⟨flagDeclared, by simpa [flag, Query.children] using shaperDeclared⟩
  have valueEverywhere : value.Everywhere (Query.DeclaresKind model) :=
    (Tree.everywhere_iff value).2
      ⟨valueDeclared, by simpa [value, Query.children] using flagEverywhere⟩
  have lowered :
      ((withBuiltInRules model Dialect.sqlServer.mappings .standard).lower
          ⟨Dialect.sqlServer.mappings, tables, []⟩ value true).1 =
        .ok (.sql node) := by
    cbv
  exact ⟨valueEverywhere, lowered,
    lower_keepsKind .sqlServer model .standard tables [] value true node
      valueEverywhere lowered⟩

end Lowerer
end QueryLowering
