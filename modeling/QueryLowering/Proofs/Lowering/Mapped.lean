import QueryLowering.Proofs.Lowering.Invariant
import QueryLowering.Proofs.Sql.WellMapped

/-!
# Results are well mapped

With the built-in rules and mappings, lowering builds mappable expressions
alone. They receive their mappings at the root of the result and in the fields
of constructed objects, so that those who take the SQL from there find it well
mapped. Conversions to the erased type and extension nodes may still hold leaves
without a mapping.
-/

namespace QueryLowering

namespace Lowered

/-- The result shows an expression: it is the expression, or a constructed
object somewhere in it has the expression as the value of a field. -/
def Exposes (result : Lowered) (node : Sql.Node) : Prop :=
  result = .sql node ∨
    ∃ fields, (Lowered.projection fields).PartOf result ∧
      ∃ field, field ∈ fields ∧ field.2 = .sql node

@[simp] theorem exposes_sql_iff (given node : Sql.Node) :
    (Lowered.sql given).Exposes node ↔ given = node := by
  constructor
  · rintro (isNode | ⟨fields, partOfResult, _⟩)
    · exact Lowered.sql.inj isNode
    · cases (partOf_sql_iff _ given).1 partOfResult
  · rintro rfl
    exact .inl rfl

end Lowered

namespace Sql
namespace Node

/-- A node that has a value type other than the erased one has a mapping, and
its mapping is of the kind of the type unless the node is the null constant. -/
def IsMapped (node : Node) : Prop :=
  (node.valueType.kind ≠ .object → node.mapping.isSome = true) ∧
    ∀ mapping, node.mapping = some mapping → node.isNullConstant = false →
      mapping.kind = node.valueType.kind

theorem isMapped_of_fits {node : Node} (fits : node.Fits) : node.IsMapped := by
  constructor
  · intro notErased
    cases known : node.mapping with
    | some mapping => rfl
    | none => exact absurd (fits.unmapped known).1 notErased
  · intro mapping known notNull
    rcases (fits.mapped mapping known).2 with isNull | ofKind
    · rw [notNull] at isNull
      cases isNull
    · exact ofKind

/-- A text operand of a concatenation is well mapped. -/
theorem wellMapped_asText
    {mapping : TypeMapping}
    {operand : Node}
    (textual : mapping.isTextual = true)
    (wellMapped : operand.WellMapped) :
    (Lowering.asText mapping operand).WellMapped := by
  have isString : mapping.kind = .string := by
    simpa [TypeMapping.isTextual] using textual
  have notErased : mapping.kind ≠ .object := by rw [isString]; decide
  unfold Lowering.asText
  split
  · next isText =>
      have ofText : operand.valueType.kind = .string := by
        simpa [ValueType.isTextual] using isText
      exact wellMapped_withMapping wellMapped notErased
        (isString.trans ofText.symm)
  · have fits : ((operand.cast .string).withMapping mapping).Fits :=
      fits_of_mapped (mapping_withMapping _ mapping) notErased (.inr isString)
    exact (everywhere_apply _ _ _).2 ⟨fits, wellMapped⟩

/-- A concatenation of mappable expressions is well mapped. -/
theorem wellMapped_concatenation
    {source : MappingSource}
    (covers : source.Covers)
    {left right node : Node}
    (leftMappable : left.IsMappable)
    (rightMappable : right.IsMappable)
    (concatenated : Lowering.concatenation source left right = .ok node) :
    node.WellMapped := by
  obtain ⟨mapping, known, rfl⟩ :=
    (Lowering.concatenation_eq_ok_iff source _ _ _).1 concatenated
  have textual := Lowering.isTextual_of_concatenationMapping? known
  have isString : mapping.kind = .string := by
    simpa [TypeMapping.isTextual] using textual
  refine (everywhere_combine _ _ _ _).2 ⟨?_, ?_, ?_⟩
  · exact fits_of_mapped rfl (by rw [isString]; decide) (.inr isString)
  · exact wellMapped_asText textual (wellMapped_infer covers leftMappable)
  · exact wellMapped_asText textual (wellMapped_infer covers rightMappable)

end Node
end Sql

namespace Lowerer

open Sql.Node (IsMappable)

/-- A bound column has the mapping of its type, if there is one. -/
theorem isMappable_columnNode
    {select : Select}
    (covers : select.mappings.Covers)
    (column : Sql.ColumnRef)
    (property : Property) :
    (select.columnNode column property).IsMappable := by
  cases found : select.mappings.find property.valueType with
  | none =>
      refine .inr ⟨_, _, rfl, ?_, rfl⟩
      simp [Select.propertyMapping, found]
  | some mapping =>
      obtain ⟨ofKind, notErased⟩ := covers.ofKind _ mapping found
      have stored : ∃ bound, select.propertyMapping property = some bound ∧
          bound.kind = mapping.kind := by
        cases declared : property.storeType with
        | none =>
            exact ⟨mapping, by simp [Select.propertyMapping, found, declared],
              rfl⟩
        | some storeType =>
            exact ⟨mapping.withStoreType storeType,
              by simp [Select.propertyMapping, found, declared], rfl⟩
      obtain ⟨bound, known, sameKind⟩ := stored
      refine .inl ((Sql.Node.everywhere_leaf _ _).2 ?_)
      exact Sql.Node.fits_of_mapped known (by rw [sameKind]; exact notErased)
        (.inr (by rw [sameKind]; exact ofKind))

/-- Lowering builds mappable expressions alone, if the mappings of the lowerer
cover all kinds and bound columns take theirs from the same mappings. -/
theorem isMappable_invariant
    (lowerer : Lowerer)
    (select : Select)
    (covers : lowerer.mappings.Covers)
    (sameMappings : select.mappings = lowerer.mappings) :
    lowerer.NodeInvariant select Query.DeclaresTruth IsMappable where
  constant value valueType := .inr ⟨_, _, rfl, rfl, rfl⟩
  parameter name valueType := .inr ⟨_, _, rfl, rfl, rfl⟩
  fragment sql valueType := .inr ⟨_, _, rfl, rfl, rfl⟩
  bound entity name node _ bound := by
    obtain ⟨_, property, column, _, _, _, isColumn⟩ :=
      (lowerer.result_bindProperty_eq_ok_iff select entity name _).1 bound
    obtain rfl := Lowered.sql.inj isColumn
    exact isMappable_columnNode (by rw [sameMappings]; exact covers) column
      property
  nonNullable inner member node _ _ mappable :=
    Sql.Node.isMappable_toNonNullable mappable
  inferred node mappable := .inl (Sql.Node.wellMapped_infer covers mappable)
  nullTest operand negated mappable :=
    .inl (Sql.Node.wellMapped_infer_apply covers rfl (fun _ => rfl)
      (Sql.Node.wellMapped_infer covers mappable))
  comparison op left right isComparison leftMappable rightMappable := by
    have notConcat : op ≠ .concat := by
      rintro rfl
      cases isComparison
    exact .inl (Sql.Node.wellMapped_infer_combine covers rfl notConcat
      (fun _ => rfl) leftMappable rightMappable)
  combination op left right method valueType leftNode rightNode declared
    notLogical leftMappable rightMappable := by
    refine .inl (Sql.Node.wellMapped_infer_combine covers rfl op.toSql_ne_concat
      ?_ leftMappable rightMappable)
    intro condition
    exact declared (by simpa [Sql.BinaryOp.isCondition] using condition)
  junction op left right method valueType leftNode rightNode declared logical
      leftMappable rightMappable := by
    have wellMapped : ∀ operand : Sql.Node, operand.IsMappable →
        (Lowering.conditionOperand lowerer.mappings operand).IsMappable := by
      intro operand mappable
      exact .inl (Sql.Node.wellMapped_toCondition covers.canonical
        (Sql.Node.wellMapped_infer covers mappable))
    exact .inl (Sql.Node.wellMapped_infer_combine covers rfl op.toSql_ne_concat
      (fun _ => declared (.inr logical)) (wellMapped _ leftMappable)
      (wellMapped _ rightMappable))
  concatenation left right node leftMappable rightMappable concatenated :=
    .inl (Sql.Node.wellMapped_concatenation covers leftMappable rightMappable
      concatenated)
  cast operand valueType _ mappable :=
    .inl (Sql.Node.wellMapped_infer_apply covers rfl (by rintro ⟨⟩)
      (Sql.Node.wellMapped_infer covers mappable))
  not operand valueType node declared mappable := by
    have operandWellMapped := Sql.Node.wellMapped_toCondition covers.canonical
      (Sql.Node.wellMapped_infer covers mappable)
    refine .inl
      (Sql.Node.wellMapped_infer_apply covers rfl (fun _ => declared rfl) ?_)
    exact Sql.Node.wellMapped_infer covers (.inl operandWellMapped)
  negate operand valueType mappable :=
    .inl (Sql.Node.wellMapped_infer_apply covers rfl (by rintro ⟨⟩)
      (Sql.Node.wellMapped_infer covers mappable))
  function name arguments valueType argumentsHold _ := by
    refine .inl (Sql.Node.wellMapped_infer_call covers rfl rfl ?_)
    intro argument member
    rcases argumentsHold argument member with mappable | ⟨start, mappable, rfl⟩
    · exact Sql.Node.wellMapped_infer covers mappable
    · exact Sql.Node.wellMapped_infer_combine covers rfl (by decide)
        (by rintro ⟨⟩) mappable (.inr ⟨_, _, rfl, rfl, rfl⟩)

/-- What a result exposes is well mapped. -/
theorem wellMapped_of_exposes
    {lowerer : Lowerer}
    {requireCondition : Bool}
    {raw : Lowered}
    {node : Sql.Node}
    (covers : lowerer.mappings.Covers)
    (everywhere : raw.Everywhere (lowerer.Carries IsMappable))
    (exposed : (lowerer.finish requireCondition raw).Exposes node) :
    node.WellMapped := by
  cases raw with
  | sql rawNode =>
      have inferred := Sql.Node.wellMapped_infer covers everywhere.root
      rw [finish_sql, Lowered.exposes_sql_iff] at exposed
      rw [← exposed]
      split
      · exact Sql.Node.wellMapped_toCondition covers.canonical inferred
      · exact inferred
  | _ =>
      rcases exposed with isNode | ⟨fields, partOfResult, field, member, isNode⟩
      · cases isNode
      · obtain ⟨fieldNode, mappable, rfl⟩ :=
          everywhere _ partOfResult field member node isNode
        exact Sql.Node.wellMapped_infer covers mappable

/-- With the built-in rules and mappings, in every expression that a result
exposes each node of a type other than the erased one has a mapping, and of the
right kind; and inference has nothing left to do. -/
theorem lower_isMapped
    (dialect : Dialect)
    (model : EntityModel)
    (settings : Settings)
    (tables : List TableSource)
    (columns : List Sql.ColumnRef)
    (query : Query)
    (requireCondition : Bool)
    (result : Lowered)
    (node : Sql.Node)
    (declared : query.Everywhere Query.DeclaresTruth)
    (lowered : ((withBuiltInRules model dialect.mappings settings).lower
      ⟨dialect.mappings, tables, columns⟩ query requireCondition).1 =
      .ok result)
    (exposed : result.Exposes node) :
    node.Everywhere Sql.Node.IsMapped ∧ node.infer dialect.mappings = node := by
  have covers := dialect.mappings_covers
  obtain ⟨_, raw, given, rfl⟩ := (lower_eq_ok_iff _ _ _ _ _).1 lowered
  have everywhere := (isMappable_invariant _ _ covers rfl).everywhere
    (hasBuiltInRules_withBuiltInRules model dialect.mappings settings) declared
    given
  have wellMapped := wellMapped_of_exposes covers everywhere exposed
  exact ⟨wellMapped.mono fun _ => Sql.Node.isMapped_of_fits,
    Sql.Node.infer_eq_self_of_wellMapped covers node wellMapped⟩

/-- A constructed object shows a comparison of a parameter, which takes the
mapping of its type. -/
theorem lower_isMapped_comparison :
    let age := Query.parameter "age" .int32
    let adult := Query.binary .greaterThan age (.constant (.integer 18) .int32)
      none .boolean
    let node :=
      (Sql.Node.binary .greaterThan (.parameter "age" .int32)
        (.constant (.integer 18) .int32)
        .boolean).infer Dialect.postgres.mappings
    adult.DeclaresTruth ∧
      ((withBuiltInRules .empty Dialect.postgres.mappings .standard).lower
        ⟨Dialect.postgres.mappings, [], []⟩
            (.construction "Row" ["Adult"] [adult]) true).1 =
          .ok (.projection [("Adult", .sql node)]) ∧
      node.Everywhere Sql.Node.IsMapped := by
  intro age adult node
  have comparisonDeclared : adult.DeclaresTruth := fun _ => rfl
  have operandsDeclared : ∀ operand, operand ∈ adult.children →
      operand.Everywhere Query.DeclaresTruth := by
    intro operand member
    rcases List.mem_pair.1 member with rfl | rfl
    · exact (Tree.everywhere_iff _).2 ⟨trivial, by rintro _ ⟨⟩⟩
    · exact (Tree.everywhere_iff _).2 ⟨trivial, by rintro _ ⟨⟩⟩
  have adultDeclared : adult.Everywhere Query.DeclaresTruth :=
    (Tree.everywhere_iff adult).2 ⟨comparisonDeclared, operandsDeclared⟩
  have declared :
      (Query.construction "Row" ["Adult"] [adult]).Everywhere
        Query.DeclaresTruth :=
    (Tree.everywhere_iff _).2
      ⟨trivial, by simpa [Query.children] using adultDeclared⟩
  have lowered :
      ((withBuiltInRules .empty Dialect.postgres.mappings .standard).lower
        ⟨Dialect.postgres.mappings, [], []⟩
            (.construction "Row" ["Adult"] [adult]) true).1 =
          .ok (.projection [("Adult", .sql node)]) := by cbv
  refine ⟨comparisonDeclared, lowered, ?_⟩
  exact (lower_isMapped .postgres .empty .standard [] [] _ true _ node declared
    lowered (.inr ⟨_, .self, _, .head _, rfl⟩)).1

end Lowerer
end QueryLowering
