import QueryLowering.Proofs.Lowering.Kinds

/-!
# Well-formed queries lower

Lowering a query that is not too deep fails in two places only: where a property
of an entity is bound, and where two operands are joined that are no texts. A
query in which each property that is read is there, each node declares its kind
and each join has a text for an operand lowers to a result, if only to the one
that it has no SQL equivalent.
-/

namespace QueryLowering

namespace Query

/-- The query is a text, or a text under one conversion to the erased type. -/
def IsText (query : Query) : Prop :=
  query.valueType.kind = .string ∨
    ∃ operand target, query = .unary .convert operand target ∧
      target.kind = .object ∧
      operand.valueType.kind = .string

/-- A property that a node reads of an entity, as a member or through the
property accessor, is in the model, and the entity is read from the buffer of a
table. -/
def ReadsKnown (model : EntityModel) (select : Select) : Query → Prop
  | .access (some (.shaper entity)) member =>
      (model.property? entity.entityType member.name).isSome = true ∧
        (select.tableFor? entity.buffer).isSome = true
  | .call _ method (.shaper entity :: rest) =>
      ∀ name, accessedProperty? method (.shaper entity :: rest) = some name →
        (model.property? entity.entityType name).isSome = true ∧
          (select.tableFor? entity.buffer).isSome = true
  | _ => True

/-- Of two operands that a node joins, one is a text. -/
def JoinsText : Query → Prop
  | .binary op left right method _ =>
      Lowering.joinsTexts op method = true → left.IsText ∨ right.IsText
  | _ => True

/-- A node of a query keeps to what lowering relies on. -/
structure IsWellFormed
    (model : EntityModel)
    (select : Select)
    (query : Query) : Prop where
  declares : query.DeclaresKind model
  reads : query.ReadsKnown model select
  joins : query.JoinsText

end Query

namespace Sql
namespace Node

/-- Inference maps a raw node of any kind but the erased one to its kind. -/
theorem exists_mapping_infer
    {source : MappingSource}
    {node : Node}
    {kind : Kind}
    (covers : source.Covers)
    (mappable : node.IsMappable)
    (raw : node.IsRawOf kind)
    (notErased : kind ≠ .object) :
    ∃ mapping, (node.infer source).mapping = some mapping ∧
      mapping.kind = kind := by
  have fits := (wellMapped_infer covers mappable).root
  have inferredKind : (node.infer source).valueType.kind = kind := by
    rw [valueType_infer, raw.ofKind]
  cases known : (node.infer source).mapping with
  | none =>
      exact absurd ((fits.unmapped known).1.symm.trans inferredKind).symm
        notErased
  | some mapping =>
      refine ⟨mapping, rfl, ?_⟩
      rcases (fits.mapped mapping known).2 with isNull | ofKind
      · -- without its mapping the null constant is mappable only as a value
        rw [isNullConstant_infer] at isNull
        have unmapped := raw.unmapped isNull
        refine kind_mapping_infer covers mappable raw ?_ known
        rcases mappable with wellMapped | ⟨header, atom, rfl, _, value⟩
        · exact (wellMapped.root.unmapped unmapped).2.1
        · exact value
      · rw [ofKind, inferredKind]

end Node
end Sql

namespace Lowering

/-- Two operands are joined if inference maps one of them as a text. -/
theorem exists_concatenation
    {source : MappingSource}
    {left right operand : Sql.Node}
    {mapping : TypeMapping}
    (isOperand : operand = left ∨ operand = right)
    (known : (operand.infer source).mapping = some mapping)
    (textual : mapping.isTextual = true) :
    ∃ node, concatenation source left right = .ok node := by
  have inferred : (Sql.Node.firstMapping? TypeMapping.isTextual
      (left.infer source) (right.infer source)).isSome = true := by
    rcases isOperand with rfl | rfl
    · simp [Sql.Node.firstMapping?, known, Option.filter_some, textual]
    · simp [Sql.Node.firstMapping?, known, Option.filter_some, textual]
  have common : (concatenationMapping? source left right).isSome = true := by
    simp [concatenationMapping?, inferred]
  obtain ⟨joined, joinedKnown⟩ := Option.isSome_iff_exists.1 common
  exact ⟨_,
    (concatenation_eq_ok_iff source left right _).2 ⟨joined, joinedKnown, rfl⟩⟩

/-- A binary operator has a result, if it joins its operands only where they can
be joined. -/
theorem exists_binary
    {source : MappingSource}
    {op : Query.BinaryOp}
    {method : Option Method}
    {left right : Lowered}
    (valueType : ValueType)
    (joined : joinsTexts op method = true →
      ∀ leftNode rightNode, left.operand? = some leftNode →
        right.operand? = some rightNode →
        ∃ node, concatenation source leftNode rightNode = .ok node) :
    ∃ result, binary source op method valueType left right = .ok result := by
  unfold binary
  split
  · next leftNode rightNode leftKnown rightKnown =>
      split
      · next joins =>
          obtain ⟨node, concatenated⟩ :=
            joined joins leftNode rightNode leftKnown rightKnown
          exact ⟨.sql node, by rw [concatenated]; rfl⟩
      · exact ⟨_, rfl⟩
  · exact ⟨_, rfl⟩

/-- A conversion to the erased type gives no SQL. -/
theorem unary_ne_sql_of_isErased
    {source : MappingSource}
    {valueType : ValueType}
    (erased : valueType.isErased = true)
    (value : Lowered)
    (node : Sql.Node) :
    unary source .convert valueType value ≠ .sql node := by
  intro given
  rcases unary_cases source .convert valueType value with
    result | ⟨_, _, result⟩ | ⟨_, _, _, notErased, _⟩ | ⟨_, _, ⟨⟩, _⟩ |
      ⟨_, _, ⟨⟩, _⟩
  · rw [result] at given
    cases given
  · rw [result] at given
    cases given
  · rw [erased] at notErased
    cases notErased

end Lowering

namespace Lowerer

variable {lowerer : Lowerer} {select : Select}

/-- A property in the model is bound, if its entity is read into the buffer of a
table. -/
theorem exists_bindProperty
    {entity : EntityRef}
    {name : String}
    (known : (lowerer.model.property? entity.entityType name).isSome = true ∧
      (select.tableFor? entity.buffer).isSome = true) :
    ∃ result,
      (lowerer.bindProperty select entity name).result = .ok result := by
  obtain ⟨propertyThere, tableThere⟩ := known
  obtain ⟨property, propertyKnown⟩ := Option.isSome_iff_exists.1 propertyThere
  obtain ⟨entityType, entityKnown, inEntity⟩ :=
    Option.bind_eq_some_iff.1 propertyKnown
  obtain ⟨table, tableKnown⟩ := Option.isSome_iff_exists.1 tableThere
  have columnKnown : select.columnRef entity.buffer property =
      .ok ⟨table.tableAlias, property.column⟩ := by
    simp [Select.columnRef, tableKnown]
  exact ⟨_, (lowerer.result_bindProperty_eq_ok_iff select entity name _).2
    ⟨entityType, property, _, entityKnown, inEntity, columnKnown, rfl⟩⟩

/-- Where each of several queries lowers, all of them do, each to a value in its
place. -/
theorem exists_lowered
    {queries : List Query}
    (each : ∀ query, query ∈ queries →
      ∃ value, lowerer.Lowers select query value) :
    ∃ values, queries.length = values.length ∧
      ∀ pair, pair ∈ queries.zip values →
        lowerer.Lowers select pair.1 pair.2 := by
  have : Nonempty Lowered := ⟨.unsupported⟩
  choose! value lowered using each
  refine ⟨queries.map value, by simp, ?_⟩
  intro pair paired
  rw [← List.map_prod_left_eq_zip] at paired
  obtain ⟨query, member, rfl⟩ := List.mem_map.1 paired
  exact lowered query member

/-- Where an inner query lowers if there is one, it lowers to a value if there
is one. -/
theorem exists_loweredInner
    {inner : Option Query}
    (each : ∀ query, inner = some query →
      ∃ value, lowerer.Lowers select query value) :
    ∃ value, inner.isSome = value.isSome ∧
      ∀ query result, inner = some query → value = some result →
        lowerer.Lowers select query result := by
  cases inner with
  | none => exact ⟨none, rfl, by rintro _ _ ⟨⟩⟩
  | some query =>
      obtain ⟨value, lowered⟩ := each query rfl
      refine ⟨some value, rfl, ?_⟩
      rintro _ _ ⟨⟩ ⟨⟩
      exact lowered

/-- Only a conversion lowers to one, and then its operand lowers to what is
converted. -/
theorem Lowers.eq_convert
    {query : Query}
    {value : Lowered}
    {target : ValueType}
    (lowered : lowerer.Lowers select query (.convert value target)) :
    ∃ operand, query = .unary .convert operand target ∧
      lowerer.Lowers select operand value := by
  rcases lowered.origin with
    ⟨⟨⟩⟩ | ⟨_, ⟨⟩⟩ | ⟨_, _, ⟨⟩⟩ |
      ⟨operand, _, _, isConvert, operandLowered, ⟨⟩⟩ | ⟨_, ⟨⟩⟩ |
    ⟨_, _, ⟨⟩⟩
  exact ⟨operand, isConvert, operandLowered⟩

/-- The SQL operand that a text lowers to is a raw text. -/
theorem isRawOf_of_isText
    (builtIn : lowerer.HasBuiltInRules)
    {query : Query}
    {value : Lowered}
    {node : Sql.Node}
    (declared : query.Everywhere (Query.DeclaresKind lowerer.model))
    (isText : query.IsText)
    (lowered : lowerer.Lowers select query value)
    (known : value.operand? = some node) :
    node.IsRawOf .string := by
  rcases (Lowered.operand?_eq_some_iff value node).1 known with
    rfl | ⟨target, erased, rfl⟩
  · rcases isText with ofText | ⟨operand, target, rfl, ofErased, _⟩
    · have raw := lowered.isRawOf builtIn declared rfl
      rwa [ofText] at raw
    · generalize isSql : Lowered.sql node = result at lowered
      cases lowered with
      | @unary _ _ _ operandValue _ =>
          have erased : target.isErased = true := by
            simpa [ValueType.isErased] using ofErased
          exact absurd isSql.symm
            (Lowering.unary_ne_sql_of_isErased erased operandValue node)
  · obtain ⟨operand, rfl, operandLowered⟩ := lowered.eq_convert
    have ofErased : target.kind = .object := by
      simpa [ValueType.isErased] using erased
    rcases isText with ofText | ⟨_, _, ⟨⟩, _, operandOfText⟩
    · exact absurd (ofErased.symm.trans ofText) (by decide)
    · have raw := operandLowered.isRawOf builtIn
        (declared.child (by simp [Query.children])) rfl
      rwa [operandOfText] at raw

/-- Operands are joined wherever one of them is a text. -/
theorem exists_concatenation_of_isText
    (builtIn : lowerer.HasBuiltInRules)
    (covers : lowerer.mappings.Covers)
    (sameMappings : select.mappings = lowerer.mappings)
    {query : Query}
    {value : Lowered}
    {node left right : Sql.Node}
    (declared : query.Everywhere (Query.DeclaresKind lowerer.model))
    (isText : query.IsText)
    (lowered : lowerer.Lowers select query value)
    (known : value.operand? = some node)
    (isOperand : node = left ∨ node = right) :
    ∃ joined,
      Lowering.concatenation lowerer.mappings left right = .ok joined := by
  have raw := isRawOf_of_isText builtIn declared isText lowered known
  have everywhere :=
    (isMappable_invariant lowerer select covers sameMappings).everywhere builtIn
      (declared.mono fun _ => Query.declaresTruth_of_declaresKind) lowered
  obtain ⟨mapping, mapped, ofText⟩ := Sql.Node.exists_mapping_infer covers
    (holds_of_operand? everywhere known) raw (by decide)
  exact Lowering.exists_concatenation isOperand mapped
    (by simp [TypeMapping.isTextual, ofText])

/-- A member of what lowers does too, if it is no member of an entity or can be
bound. -/
theorem exists_lowers_access
    {inner : Query}
    {value : Lowered}
    (member : Member)
    (innerLowered : lowerer.Lowers select inner value)
    (bindable : ∀ entity, value = .shaper entity →
      ∃ result,
        (lowerer.bindProperty select entity member.name).result = .ok result) :
    ∃ result, lowerer.Lowers select (.access (some inner) member) result := by
  cases value with
  | shaper entity =>
      obtain ⟨result, bound⟩ := bindable entity rfl
      exact ⟨result, .boundMember innerLowered bound⟩
  | sql node =>
      cases isValue : member.isNullableValue with
      | true => exact ⟨_, .nullableValue innerLowered isValue⟩
      | false => exact ⟨_, .member innerLowered rfl fun _ => isValue⟩
  | _ => exact ⟨_, .member innerLowered rfl (by rintro ⟨⟩)⟩

/-- A call lowers where its target and its arguments do, if it reads no property
of an entity or one that can be bound. -/
theorem exists_lowers_call
    {target : Option Query}
    {method : Method}
    {arguments : List Query}
    (targetLowers : ∀ query, target = some query →
      ∃ value, lowerer.Lowers select query value)
    (argumentsLower : ∀ argument, argument ∈ arguments →
      ∃ value, lowerer.Lowers select argument value)
    (bindable : ∀ entity rest name, arguments = .shaper entity :: rest →
      accessedProperty? method arguments = some name →
      ∃ result, (lowerer.bindProperty select entity name).result = .ok result) :
    ∃ result, lowerer.Lowers select (.call target method arguments) result := by
  obtain ⟨targetValue, sameShape, targetLowered⟩ :=
    exists_loweredInner targetLowers
  obtain ⟨values, sameLength, lowered⟩ := exists_lowered argumentsLower
  by_cases ruled : (accessedProperty? method arguments).isSome = true →
      values.head?.bind Lowered.entity? = none
  · exact ⟨_, .call sameShape targetLowered sameLength lowered ruled⟩
  · obtain ⟨isAccess, isEntity⟩ := Classical.not_imp.1 ruled
    obtain ⟨name, accessed⟩ := Option.isSome_iff_exists.1 isAccess
    obtain ⟨entity, known⟩ := Option.ne_none_iff_exists'.1 isEntity
    obtain ⟨value, isFirst, ofEntity⟩ := Option.bind_eq_some_iff.1 known
    obtain rfl := (Lowered.entity?_eq_some_iff value entity).1 ofEntity
    obtain ⟨others, rfl⟩ := List.head?_eq_some_iff.1 isFirst
    obtain ⟨first, rest, rfl⟩ :=
      List.exists_cons_of_length_eq_add_one sameLength
    have firstLowered := lowered (first, .shaper entity) (by simp)
    obtain rfl := firstLowered.eq_shaper
    obtain ⟨result, bound⟩ := bindable entity rest name rfl accessed
    exact ⟨result, .accessor accessed firstLowered bound⟩

/-- With the built-in rules, a well-formed query lowers. -/
theorem exists_lowers
    (builtIn : lowerer.HasBuiltInRules)
    (covers : lowerer.mappings.Covers)
    (sameMappings : select.mappings = lowerer.mappings)
    (query : Query)
    (wellFormed : query.Everywhere (Query.IsWellFormed lowerer.model select)) :
    ∃ result, lowerer.Lowers select query result := by
  induction query using Query.induct with
  | access inner member innerHypothesis =>
      cases inner with
      | none => exact ⟨_, .staticMember member⟩
      | some query =>
          obtain ⟨value, lowered⟩ :=
            innerHypothesis query rfl
              (wellFormed.child (by simp [Query.children]))
          refine exists_lowers_access member lowered ?_
          rintro entity rfl
          obtain rfl := lowered.eq_shaper
          exact exists_bindProperty (wellFormed.root.reads)
  | call target method arguments targetHypothesis argumentsHypothesis =>
      refine exists_lowers_call ?_ ?_ ?_
      · intro query present
        exact targetHypothesis query present
          (wellFormed.child (by simp [Query.children, present]))
      · intro argument member
        exact argumentsHypothesis argument member
          (wellFormed.child (by simp [Query.children, member]))
      · rintro entity rest name rfl accessed
        exact exists_bindProperty (wellFormed.root.reads name accessed)
  | binary op left right method valueType leftHypothesis rightHypothesis =>
      have declared := wellFormed.mono fun _ holds => holds.declares
      have leftDeclared := declared.child (show left ∈ [left, right] by simp)
      have rightDeclared := declared.child (show right ∈ [left, right] by simp)
      obtain ⟨leftValue, leftLowered⟩ :=
        leftHypothesis (wellFormed.child (by simp [Query.children]))
      obtain ⟨rightValue, rightLowered⟩ :=
        rightHypothesis (wellFormed.child (by simp [Query.children]))
      have joined : Lowering.joinsTexts op method = true →
          ∀ leftNode rightNode, leftValue.operand? = some leftNode →
            rightValue.operand? = some rightNode →
            ∃ node, Lowering.concatenation lowerer.mappings leftNode rightNode =
              .ok node := by
        intro joins leftNode rightNode leftKnown rightKnown
        -- one operand that is a text is enough: the other takes over its
        -- mapping
        rcases wellFormed.root.joins joins with isText | isText
        · exact exists_concatenation_of_isText builtIn covers sameMappings
            leftDeclared isText leftLowered leftKnown (.inl rfl)
        · exact exists_concatenation_of_isText builtIn covers sameMappings
            rightDeclared isText rightLowered rightKnown (.inr rfl)
      obtain ⟨result, combined⟩ := Lowering.exists_binary valueType joined
      exact ⟨result, .binary leftLowered rightLowered combined⟩
  | unary op operand valueType inductionHypothesis =>
      obtain ⟨value, lowered⟩ :=
        inductionHypothesis (wellFormed.child (by simp [Query.children]))
      exact ⟨_, .unary lowered⟩
  | constant value valueType => exact ⟨_, .constant value valueType⟩
  | parameter name valueType => exact ⟨_, .parameter name valueType⟩
  | construction typeName members arguments inductionHypothesis =>
      obtain ⟨values, sameLength, lowered⟩ :=
        exists_lowered fun argument member =>
          inductionHypothesis argument member (wellFormed.child member)
      have yielded := (lowerer.yield_visitAll_iff select arguments values).2
        ⟨sameLength, fun pair paired => (lowered pair paired).result_visit⟩
      have given := lowerer.result_lowerConstruction_of_yield members yielded
      rw [← visit] at given
      exact ⟨_, (lowerer.result_visit_eq_ok_iff select _ _).1 given⟩
  | shaper entity => exact ⟨_, .shaper entity⟩
  | extension name children inductionHypothesis =>
      obtain ⟨values, sameLength, lowered⟩ := exists_lowered fun child member =>
        inductionHypothesis child member (wellFormed.child member)
      exact ⟨_, .extension sameLength lowered⟩

/-- With the built-in rules and mappings, a well-formed query that is not too
deep lowers, against any context that has its tables. -/
theorem lower_succeeds
    (dialect : Dialect)
    (model : EntityModel)
    (settings : Settings)
    (tables : List TableSource)
    (columns : List Sql.ColumnRef)
    (query : Query)
    (requireCondition : Bool)
    (shallow : query.depth ≤ settings.maxDepth.toNat)
    (wellFormed : query.Everywhere
      (Query.IsWellFormed model ⟨dialect.mappings, tables, columns⟩)) :
    ∃ result, ((withBuiltInRules model dialect.mappings settings).lower
      ⟨dialect.mappings, tables, columns⟩ query requireCondition).1 =
      .ok result := by
  obtain ⟨raw, lowered⟩ := exists_lowers
    (hasBuiltInRules_withBuiltInRules model dialect.mappings settings)
    dialect.mappings_covers rfl
    query wellFormed
  exact ⟨_, (lower_eq_ok_iff _ _ _ _ _).2 ⟨shallow, raw, lowered, rfl⟩⟩

/-- A name that is read through the property accessor is joined with a number
under a conversion to the erased type. -/
theorem lower_succeeds_label :
    let name : Property := ⟨"Name", "name", .string, none⟩
    let model : EntityModel := ⟨[⟨"Customer", "customers", [name]⟩]⟩
    let select : Select :=
      ⟨Dialect.postgres.mappings, [⟨"c", "customers", "Customer", ⟨0⟩⟩], []⟩
    let property : Method := ⟨.propertyAccessor, .object, "property", .string⟩
    let label := Query.stringConcat
      (.call none property
        [.shaper ⟨"Customer", ⟨0⟩⟩, .constant (.string "Name") .string])
      (.unary .convert (.parameter "number" .int32) .object)
    label.depth ≤ Settings.standard.maxDepth.toNat ∧
      label.Everywhere (Query.IsWellFormed model select) ∧
      ∃ result, ((withBuiltInRules model Dialect.postgres.mappings
          .standard).lower select label false).1 =
        .ok result := by
  intro name model select property label
  have found : model.property? "Customer" "Name" = some name := by cbv
  have entityHolds : (Query.shaper ⟨"Customer", ⟨0⟩⟩).Everywhere
      (Query.IsWellFormed model select) :=
    (Query.everywhere_shaper _).2 ⟨trivial, trivial, trivial⟩
  have textHolds : (Query.constant (.string "Name") .string).Everywhere
      (Query.IsWellFormed model select) :=
    (Query.everywhere_constant _ _).2 ⟨trivial, trivial, trivial⟩
  have numberHolds : (Query.parameter "number" .int32).Everywhere
      (Query.IsWellFormed model select) :=
    (Query.everywhere_parameter _ _).2 ⟨trivial, trivial, trivial⟩
  have accessorHolds : (Query.call none property
      [.shaper ⟨"Customer", ⟨0⟩⟩,
        .constant (.string "Name") .string]).Everywhere
      (Query.IsWellFormed model select) := by
    refine (Query.everywhere_call _ _ _).2
      ⟨⟨⟨?_, ?_⟩, ?_, trivial⟩, by rintro _ ⟨⟩, ?_⟩
    · rintro _ _ _ other ⟨⟩ ⟨⟩ known
      obtain rfl : name = other := Option.some.inj (found.symm.trans known)
      rfl
    · rintro ⟨⟩
    · rintro _ ⟨⟩
      exact ⟨by rw [found]; rfl, by decide⟩
    · intro argument member
      rcases List.mem_pair.1 member with rfl | rfl
      · exact entityHolds
      · exact textHolds
  have convertedHolds :
      (Query.unary .convert (.parameter "number" .int32) .object).Everywhere
        (Query.IsWellFormed model select) :=
    (Query.everywhere_unary _ _ _).2
      ⟨⟨by rintro ⟨⟩, trivial, trivial⟩, numberHolds⟩
  have labelHolds : label.Everywhere (Query.IsWellFormed model select) := by
    refine (Query.everywhere_binary _ _ _ _ _).2
      ⟨⟨⟨?_, fun _ => rfl⟩, trivial, ?_⟩, accessorHolds, convertedHolds⟩
    · rintro (⟨⟨⟩⟩ | ⟨⟨⟩⟩)
    · exact fun _ => .inl (.inl rfl)
  have depth : label.depth = 3 := by cbv
  have shallow : label.depth ≤ Settings.standard.maxDepth.toNat := by
    rw [depth]
    decide
  exact ⟨shallow, labelHolds,
    lower_succeeds .postgres model .standard _ [] label false shallow
      labelHolds⟩

end Lowerer
end QueryLowering
