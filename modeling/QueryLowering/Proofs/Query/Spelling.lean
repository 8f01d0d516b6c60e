import Mathlib.Data.List.Forall2
import QueryLowering.Lowering.Visit
import QueryLowering.Proofs.Query.Height
import QueryLowering.Proofs.Tree

/-!
# Two spellings of the properties of entities

A property of an entity can be read as a member of it, or by a call of the
property accessor on the entity and the name. Two queries are spellings of each
other when the second has the call in some places where the first has the
member, and is the same everywhere else. They have the same depth, and the calls
that were there before are property accessors in both or in none.
-/

namespace QueryLowering
namespace Query

/-- The second query has a call of the property accessor for some of the members
of entities in the first, and is the same everywhere else. -/
inductive Respelled : Query → Query → Prop
  | accessor {method : Method} (entity : EntityRef) (member : Member)
      (nameType : ValueType) :
      method.kind = .propertyAccessor →
      Respelled (.access (some (.shaper entity)) member)
        (.call none method
          [.shaper entity, .constant (.string member.name) nameType])
  | access {inner spelledInner : Option Query} (member : Member) :
      inner.isSome = spelledInner.isSome →
      (∀ query spelled, inner = some query → spelledInner = some spelled →
        Respelled query spelled) →
      Respelled (.access inner member) (.access spelledInner member)
  | call
      {target spelledTarget : Option Query}
      {arguments spelledArguments : List Query}
      (method : Method) :
      target.isSome = spelledTarget.isSome →
      (∀ query spelled, target = some query → spelledTarget = some spelled →
        Respelled query spelled) →
      arguments.length = spelledArguments.length →
      (∀ pair, pair ∈ arguments.zip spelledArguments →
        Respelled pair.1 pair.2) →
      Respelled (.call target method arguments)
        (.call spelledTarget method spelledArguments)
  | binary
      {left spelledLeft right spelledRight : Query}
      (op : BinaryOp)
      (method : Option Method)
      (valueType : ValueType) :
      Respelled left spelledLeft →
      Respelled right spelledRight →
      Respelled (.binary op left right method valueType)
        (.binary op spelledLeft spelledRight method valueType)
  | unary {operand spelledOperand : Query} (op : UnaryOp)
      (valueType : ValueType) :
      Respelled operand spelledOperand →
      Respelled (.unary op operand valueType)
        (.unary op spelledOperand valueType)
  | constant (value : Literal) (valueType : ValueType) :
      Respelled (.constant value valueType) (.constant value valueType)
  | parameter (name : String) (valueType : ValueType) :
      Respelled (.parameter name valueType) (.parameter name valueType)
  | construction
      {arguments spelledArguments : List Query}
      (typeName : String)
      (members : List String) :
      arguments.length = spelledArguments.length →
      (∀ pair, pair ∈ arguments.zip spelledArguments →
        Respelled pair.1 pair.2) →
      Respelled (.construction typeName members arguments)
        (.construction typeName members spelledArguments)
  | shaper (entity : EntityRef) : Respelled (.shaper entity) (.shaper entity)
  | extension {children spelledChildren : List Query} (name : String) :
      children.length = spelledChildren.length →
      (∀ pair, pair ∈ children.zip spelledChildren → Respelled pair.1 pair.2) →
      Respelled (.extension name children) (.extension name spelledChildren)

/-- Two functions have the same values on two lists, if they agree on each
element and the one in its place. -/
theorem map_eq_map_of_zip
    {first : α → γ}
    {second : β → γ}
    {inputs : List α}
    {others : List β}
    (sameLength : inputs.length = others.length)
    (agree : ∀ pair, pair ∈ inputs.zip others → first pair.1 = second pair.2) :
    inputs.map first = others.map second := by
  rw [← List.forall₂_eq_eq_eq, List.forall₂_map_left_iff,
    List.forall₂_map_right_iff, List.forall₂_iff_zip]
  exact ⟨sameLength, fun paired => agree _ paired⟩

/-- Every query is a spelling of itself. -/
theorem Respelled.refl (query : Query) : query.Respelled query := by
  have list : ∀ queries : List Query,
      (∀ query, query ∈ queries → query.Respelled query) →
      ∀ pair, pair ∈ queries.zip queries → pair.1.Respelled pair.2 := by
    intro queries each pair paired
    exact (List.forall₂_iff_zip.1 (List.forall₂_same.2 each)).2 paired
  have inside : ∀ inner : Option Query,
      (∀ query, inner = some query → query.Respelled query) →
      ∀ query spelled, inner = some query → inner = some spelled →
        query.Respelled spelled := by
    rintro _ each query spelled rfl ⟨⟩
    exact each query rfl
  induction query using Query.induct with
  | access inner member innerHypothesis =>
      exact .access member rfl (inside inner innerHypothesis)
  | call target method arguments targetHypothesis argumentsHypothesis =>
      exact .call method rfl (inside target targetHypothesis) rfl
        (list arguments argumentsHypothesis)
  | binary op left right method valueType leftHypothesis rightHypothesis =>
      exact .binary op method valueType leftHypothesis rightHypothesis
  | unary op operand valueType inductionHypothesis =>
      exact .unary op valueType inductionHypothesis
  | constant value valueType => exact .constant value valueType
  | parameter name valueType => exact .parameter name valueType
  | construction typeName members arguments inductionHypothesis =>
      exact .construction typeName members rfl
        (list arguments inductionHypothesis)
  | shaper entity => exact .shaper entity
  | extension name children inductionHypothesis =>
      exact .extension name rfl (list children inductionHypothesis)

/-- Both spellings have the same depth: the call has the entity as a child where
the member has it, and the name beside it is a leaf. -/
theorem Respelled.depth_eq
    {query spelled : Query}
    (respelled : query.Respelled spelled) :
    query.depth = spelled.depth := by
  have inside : ∀ inner spelledInner : Option Query,
      inner.isSome = spelledInner.isSome →
      (∀ query spelled, inner = some query → spelledInner = some spelled →
        query.depth = spelled.depth) →
      inner.toList.map depth = spelledInner.toList.map depth := by
    intro inner spelledInner sameShape each
    cases inner with
    | none =>
        obtain rfl : spelledInner = none := by simpa using sameShape.symm
        rfl
    | some query =>
        obtain ⟨spelled, rfl⟩ :=
          Option.isSome_iff_exists.1 (by simpa using sameShape.symm)
        simpa using each query spelled rfl rfl
  induction respelled with
  | accessor => simp [depth_eq_height, height, heightOfInner, heightOfAll]
  | access member sameShape _ inductionHypothesis =>
      rw [depth_eq_children, depth_eq_children, children, children,
        inside _ _ sameShape inductionHypothesis]
  | call method sameShape _ sameLength _ targetHypothesis argumentsHypothesis =>
      rw [depth_eq_children, depth_eq_children, children, children,
        List.map_append, List.map_append, inside _ _ sameShape targetHypothesis,
        map_eq_map_of_zip sameLength argumentsHypothesis]
  | binary op method valueType _ _ leftHypothesis rightHypothesis =>
      rw [depth_eq_children, depth_eq_children]
      simp [children, leftHypothesis, rightHypothesis]
  | unary op valueType _ inductionHypothesis =>
      rw [depth_eq_children, depth_eq_children]
      simp [children, inductionHypothesis]
  | constant | parameter | shaper => rfl
  | construction _ _ sameLength _ inductionHypothesis
  | extension _ sameLength _ inductionHypothesis =>
      rw [depth_eq_children, depth_eq_children, children, children,
        map_eq_map_of_zip sameLength inductionHypothesis]

/-- The name that a property accessor reads is a constant in both spellings. -/
theorem accessedProperty?_eq_of_respelled
    (method : Method)
    {arguments spelledArguments : List Query}
    (sameLength : arguments.length = spelledArguments.length)
    (respelled : ∀ pair, pair ∈ arguments.zip spelledArguments →
      pair.1.Respelled pair.2) :
    accessedProperty? method arguments =
      accessedProperty? method spelledArguments := by
  match arguments, spelledArguments, sameLength, respelled with
  | [], [], _, _ => rfl
  | [_], [_], _, _ => simp [accessedProperty?]
  | [_, name], [_, spelledName], _, respelled =>
      have nameRespelled : name.Respelled spelledName :=
        respelled (name, spelledName) (by simp)
      cases nameRespelled with
      | constant value valueType =>
          cases value <;> cases kind : method.kind <;>
            simp [accessedProperty?, kind]
      | _ => simp [accessedProperty?]
  | _ :: _ :: _ :: _, _ :: _ :: _ :: _, _, _ => simp [accessedProperty?]

end Query
end QueryLowering
