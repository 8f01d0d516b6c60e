import QueryLowering.Lowered
import QueryLowering.Query
import QueryLowering.Sql.Node

/-!
# Parts of trees

SQL expressions, queries and results of lowering are trees whose nodes keep
their children in lists. A part of a tree is the tree itself or a part of one of
its children, and a property holds everywhere in a tree when it holds of every
part.

Each kind of tree has an induction principle that gives the hypothesis for every
child, also for those inside lists and pairs.
-/

namespace QueryLowering
namespace Tree

/-- `part` is the whole tree itself, or a part of one of its children. -/
inductive PartOf (children : α → List α) (part : α) : α → Prop
  | self : PartOf children part part
  | ofChild {child whole : α} :
      child ∈ children whole →
      PartOf children part child →
      PartOf children part whole

/-- Every part of a tree has a property. -/
def Everywhere
    (children : α → List α)
    (holds : α → Prop)
    (whole : α) : Prop :=
  ∀ part, PartOf children part whole → holds part

variable {children : α → List α} {holds : α → Prop}

/-- A part of a part is a part. -/
theorem PartOf.trans
    {inner middle whole : α}
    (innerPart : PartOf children inner middle)
    (middlePart : PartOf children middle whole) :
    PartOf children inner whole := by
  induction middlePart with
  | self => exact innerPart
  | ofChild member _ inductionHypothesis =>
      exact .ofChild member inductionHypothesis

/-- A property holds everywhere when it holds of the root and everywhere in each
child. -/
theorem everywhere_iff (whole : α) :
    Everywhere children holds whole ↔
      holds whole ∧ ∀ child, child ∈ children whole →
        Everywhere children holds child := by
  constructor
  · intro everywhere
    refine ⟨everywhere whole .self, ?_⟩
    intro child member part partOfChild
    exact everywhere part (.ofChild member partOfChild)
  · rintro ⟨root, below⟩ part partOfWhole
    cases partOfWhole with
    | self => exact root
    | ofChild member partOfChild => exact below _ member part partOfChild

namespace Everywhere

/-- What holds everywhere holds at the root. -/
theorem root {whole : α} (everywhere : Everywhere children holds whole) :
    holds whole :=
  everywhere whole .self

/-- What holds everywhere in a tree holds everywhere in each child. -/
theorem child
    {child whole : α}
    (everywhere : Everywhere children holds whole)
    (member : child ∈ children whole) :
    Everywhere children holds child :=
  ((everywhere_iff whole).1 everywhere).2 child member

/-- What holds everywhere in a tree holds everywhere in each part. -/
theorem part
    {part whole : α}
    (everywhere : Everywhere children holds whole)
    (partOfWhole : PartOf children part whole) :
    Everywhere children holds part := by
  intro inner innerPart
  exact everywhere inner (innerPart.trans partOfWhole)

/-- A weaker property holds everywhere too. -/
theorem mono
    {weaker : α → Prop}
    {whole : α}
    (everywhere : Everywhere children holds whole)
    (weaken : ∀ part, holds part → weaker part) :
    Everywhere children weaker whole := by
  intro part partOfWhole
  exact weaken part (everywhere part partOfWhole)

end Everywhere
end Tree

namespace Sql
namespace Node

/-- Induction over expressions, with the hypothesis for every argument of a
call. -/
@[elab_as_elim]
theorem induct
    {motive : Node → Prop}
    (leaf : ∀ header atom, motive (.leaf header atom))
    (apply : ∀ header op operand, motive operand →
      motive (.apply header op operand))
    (combine : ∀ header op left right,
      motive left → motive right → motive (.combine header op left right))
    (call : ∀ header name arguments,
      (∀ argument, argument ∈ arguments → motive argument) →
      motive (.call header name arguments))
    (node : Node) : motive node := by
  refine @Node.rec motive
    (fun arguments => ∀ argument, argument ∈ arguments → motive argument) leaf
    apply combine call ?_ ?_ node
  · intro argument member
    cases member
  · intro first rest firstHolds restHolds argument member
    cases member with
    | head => exact firstHolds
    | tail _ inRest => exact restHolds argument inRest

/-- Induction over expressions that stops at mapped nodes. -/
@[elab_as_elim]
theorem inductUnmapped
    {motive : Node → Prop}
    (mapped : ∀ node, node.mapping.isSome = true → motive node)
    (leaf : ∀ header atom,
      (Node.leaf header atom).mapping = none → motive (.leaf header atom))
    (apply : ∀ header op operand,
      (Node.apply header op operand).mapping = none →
      motive operand → motive (.apply header op operand))
    (combine : ∀ header op left right,
      (Node.combine header op left right).mapping = none →
      motive left → motive right → motive (.combine header op left right))
    (call : ∀ header name arguments,
      (Node.call header name arguments).mapping = none →
      (∀ argument, argument ∈ arguments → motive argument) →
      motive (.call header name arguments))
    (node : Node) : motive node := by
  have step : ∀ root : Node, (root.mapping = none → motive root) →
      motive root := by
    intro root unmapped
    cases known : root.mapping with
    | some mapping => exact mapped root (by simp [known])
    | none => exact unmapped known
  induction node using induct with
  | leaf header atom => exact step _ (leaf header atom)
  | apply header op operand inductionHypothesis =>
      exact step _
        fun unmapped => apply header op operand unmapped inductionHypothesis
  | combine header op left right leftHypothesis rightHypothesis =>
      exact step _ fun unmapped =>
        combine header op left right unmapped leftHypothesis rightHypothesis
  | call header name arguments inductionHypothesis =>
      exact step _
        fun unmapped => call header name arguments unmapped inductionHypothesis

/-- A property holds of every part of an expression. -/
abbrev Everywhere (holds : Node → Prop) (node : Node) : Prop :=
  Tree.Everywhere children holds node

variable {holds : Node → Prop}

@[simp] theorem everywhere_leaf (header : Header) (atom : Atom) :
    (Node.leaf header atom).Everywhere holds ↔ holds (.leaf header atom) := by
  simp [Everywhere, Tree.everywhere_iff (Node.leaf header atom), children]

@[simp] theorem everywhere_apply
    (header : Header)
    (op : UnaryOp)
    (operand : Node) :
    (Node.apply header op operand).Everywhere holds ↔
      holds (.apply header op operand) ∧ operand.Everywhere holds := by
  simp [Everywhere, Tree.everywhere_iff (Node.apply header op operand),
    children]

@[simp] theorem everywhere_combine
    (header : Header)
    (op : BinaryOp)
    (left right : Node) :
    (Node.combine header op left right).Everywhere holds ↔
      holds (.combine header op left right) ∧
        left.Everywhere holds ∧ right.Everywhere holds := by
  simp [Everywhere, Tree.everywhere_iff (Node.combine header op left right),
    children]

@[simp] theorem everywhere_call
    (header : Header)
    (name : String)
    (arguments : List Node) :
    (Node.call header name arguments).Everywhere holds ↔
      holds (.call header name arguments) ∧
        ∀ argument, argument ∈ arguments → argument.Everywhere holds := by
  simp [Everywhere, Tree.everywhere_iff (Node.call header name arguments),
    children]

/-- Another header keeps a property everywhere if the root still has it. -/
theorem everywhere_withHeader
    {node : Node}
    {header : Header}
    (everywhere : node.Everywhere holds)
    (root : holds (node.withHeader header)) :
    (node.withHeader header).Everywhere holds := by
  cases node with
  | leaf previous atom => exact (everywhere_leaf header atom).2 root
  | apply previous op operand =>
      exact (everywhere_apply header op operand).2
        ⟨root, ((everywhere_apply previous op operand).1 everywhere).2⟩
  | combine previous op left right =>
      exact (everywhere_combine header op left right).2
        ⟨root, ((everywhere_combine previous op left right).1 everywhere).2⟩
  | call previous name arguments =>
      exact (everywhere_call header name arguments).2
        ⟨root, ((everywhere_call previous name arguments).1 everywhere).2⟩

end Node
end Sql

namespace Query

/-- Induction over queries, with the hypothesis for every subexpression. -/
@[elab_as_elim]
theorem induct
    {motive : Query → Prop}
    (access : ∀ inner member,
      (∀ query, inner = some query → motive query) →
        motive (.access inner member))
    (call : ∀ target method arguments,
      (∀ query, target = some query → motive query) →
      (∀ argument, argument ∈ arguments → motive argument) →
      motive (.call target method arguments))
    (binary : ∀ op left right method valueType,
      motive left → motive right →
        motive (.binary op left right method valueType))
    (unary : ∀ op operand valueType, motive operand →
      motive (.unary op operand valueType))
    (constant : ∀ value valueType, motive (.constant value valueType))
    (parameter : ∀ name valueType, motive (.parameter name valueType))
    (construction : ∀ typeName members arguments,
      (∀ argument, argument ∈ arguments → motive argument) →
      motive (.construction typeName members arguments))
    (shaper : ∀ entity, motive (.shaper entity))
    (extension : ∀ name children,
      (∀ child, child ∈ children → motive child) →
        motive (.extension name children))
    (query : Query) : motive query := by
  refine @Query.rec motive
    (fun inner => ∀ query, inner = some query → motive query)
    (fun queries => ∀ query, query ∈ queries → motive query)
    access call binary unary constant parameter construction shaper extension
    ?_ ?_ ?_ ?_ query
  · intro query absent
    cases absent
  · intro inner innerHolds query present
    cases present
    exact innerHolds
  · intro query member
    cases member
  · intro first rest firstHolds restHolds query member
    cases member with
    | head => exact firstHolds
    | tail _ inRest => exact restHolds query inRest

/-- `part` is a query or stands inside it. -/
abbrev PartOf (part whole : Query) : Prop := Tree.PartOf children part whole

/-- A property holds of every subexpression of a query. -/
abbrev Everywhere (holds : Query → Prop) (query : Query) : Prop :=
  Tree.Everywhere children holds query

variable {holds : Query → Prop}

theorem everywhere_constant (value : Literal) (valueType : ValueType) :
    (Query.constant value valueType).Everywhere holds ↔
      holds (.constant value valueType) := by
  simp [Everywhere, Tree.everywhere_iff (Query.constant value valueType),
    children]

theorem everywhere_parameter (name : String) (valueType : ValueType) :
    (Query.parameter name valueType).Everywhere holds ↔
      holds (.parameter name valueType) := by
  simp [Everywhere, Tree.everywhere_iff (Query.parameter name valueType),
    children]

theorem everywhere_shaper (entity : EntityRef) :
    (Query.shaper entity).Everywhere holds ↔ holds (.shaper entity) := by
  simp [Everywhere, Tree.everywhere_iff (Query.shaper entity), children]

theorem everywhere_access (inner : Option Query) (member : Member) :
    (Query.access inner member).Everywhere holds ↔
      holds (.access inner member) ∧
        ∀ query, inner = some query → query.Everywhere holds := by
  simp [Everywhere, Tree.everywhere_iff (Query.access inner member), children]

theorem everywhere_call
    (target : Option Query)
    (method : Method)
    (arguments : List Query) :
    (Query.call target method arguments).Everywhere holds ↔
      holds (.call target method arguments) ∧
        (∀ query, target = some query → query.Everywhere holds) ∧
        ∀ argument, argument ∈ arguments → argument.Everywhere holds := by
  simp [Everywhere, Tree.everywhere_iff (Query.call target method arguments),
    children, or_imp, forall_and]

theorem everywhere_binary
    (op : BinaryOp)
    (left right : Query)
    (method : Option Method)
    (valueType : ValueType) :
    (Query.binary op left right method valueType).Everywhere holds ↔
      holds (.binary op left right method valueType) ∧
        left.Everywhere holds ∧ right.Everywhere holds := by
  simp [Everywhere,
    Tree.everywhere_iff (Query.binary op left right method valueType), children]

theorem everywhere_unary
    (op : UnaryOp)
    (operand : Query)
    (valueType : ValueType) :
    (Query.unary op operand valueType).Everywhere holds ↔
      holds (.unary op operand valueType) ∧ operand.Everywhere holds := by
  simp [Everywhere, Tree.everywhere_iff (Query.unary op operand valueType),
    children]

end Query

namespace Lowered

/-- The results that a result consists of. -/
def children : Lowered → List Lowered
  | .convert operand _ => [operand]
  | .projection fields => fields.map Prod.snd
  | .extension _ children => children
  | .sql _ | .shaper _ | .unsupported => []

/-- `part` is a result or stands inside it. -/
abbrev PartOf (part whole : Lowered) : Prop := Tree.PartOf children part whole

/-- A property holds of every part of a result. -/
abbrev Everywhere (holds : Lowered → Prop) (result : Lowered) : Prop :=
  Tree.Everywhere children holds result

/-- Induction over results, with the hypothesis for every field and child. -/
@[elab_as_elim]
theorem induct
    {motive : Lowered → Prop}
    (sql : ∀ node, motive (.sql node))
    (shaper : ∀ entity, motive (.shaper entity))
    (convert : ∀ operand target, motive operand →
      motive (.convert operand target))
    (projection : ∀ fields,
      (∀ field, field ∈ fields → motive field.2) → motive (.projection fields))
    (extension : ∀ name children,
      (∀ child, child ∈ children → motive child) →
        motive (.extension name children))
    (unsupported : motive .unsupported)
    (result : Lowered) : motive result := by
  refine @Lowered.rec motive
    (fun fields => ∀ field, field ∈ fields → motive field.2)
    (fun results => ∀ child, child ∈ results → motive child)
    (fun field => motive field.2)
    sql shaper convert projection extension unsupported ?_ ?_ ?_ ?_ ?_ result
  · intro field member
    cases member
  · intro first rest firstHolds restHolds field member
    cases member with
    | head => exact firstHolds
    | tail _ inRest => exact restHolds field inRest
  · intro child member
    cases member
  · intro first rest firstHolds restHolds child member
    cases member with
    | head => exact firstHolds
    | tail _ inRest => exact restHolds child inRest
  · intro _ _ valueHolds
    exact valueHolds

/-- An expression is a result without further parts. -/
theorem partOf_sql_iff (part : Lowered) (node : Sql.Node) :
    part.PartOf (.sql node) ↔ part = .sql node := by
  constructor
  · intro partOfSql
    cases partOfSql with
    | self => rfl
    | ofChild member _ => cases member
  · rintro rfl
    exact .self

variable {holds : Lowered → Prop}

@[simp] theorem everywhere_sql (node : Sql.Node) :
    (Lowered.sql node).Everywhere holds ↔ holds (.sql node) := by
  simp [Everywhere, Tree.everywhere_iff (Lowered.sql node), children]

@[simp] theorem everywhere_shaper (entity : EntityRef) :
    (Lowered.shaper entity).Everywhere holds ↔ holds (.shaper entity) := by
  simp [Everywhere, Tree.everywhere_iff (Lowered.shaper entity), children]

@[simp] theorem everywhere_unsupported :
    Lowered.unsupported.Everywhere holds ↔ holds .unsupported := by
  simp [Everywhere, Tree.everywhere_iff Lowered.unsupported, children]

@[simp] theorem everywhere_convert (operand : Lowered) (target : ValueType) :
    (Lowered.convert operand target).Everywhere holds ↔
      holds (.convert operand target) ∧ operand.Everywhere holds := by
  simp [Everywhere, Tree.everywhere_iff (Lowered.convert operand target),
    children]

@[simp] theorem everywhere_projection (fields : List (String × Lowered)) :
    (Lowered.projection fields).Everywhere holds ↔
      holds (.projection fields) ∧
        ∀ field, field ∈ fields → field.2.Everywhere holds := by
  rw [Everywhere, Tree.everywhere_iff]
  simp only [children, List.forall_mem_map]

@[simp] theorem everywhere_extension (name : String) (results : List Lowered) :
    (Lowered.extension name results).Everywhere holds ↔
      holds (.extension name results) ∧
        ∀ child, child ∈ results → child.Everywhere holds := by
  simp [Everywhere, Tree.everywhere_iff (Lowered.extension name results),
    children]

end Lowered
end QueryLowering
