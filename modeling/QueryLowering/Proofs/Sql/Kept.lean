import QueryLowering.Proofs.Sql.FullyMapped

/-!
# What inference keeps

Inference writes mappings and nothing else. Without its mappings, an expression
is the same before and after it: the same tree, with the same operators, atoms,
value types and conditions at every node.

Of the mappings, it writes those that were missing. A part of the expression,
found by the way from the root to it, is the same part afterwards if it had a
mapping.
-/

namespace QueryLowering
namespace Sql

/-- The header without its mapping. -/
def Header.withoutMapping (header : Header) : Header :=
  { header with mapping := none }

@[simp] theorem Header.withoutMapping_resolve
    (header : Header)
    (source : MappingSource)
    (inherited : Option TypeMapping) :
    (header.resolve source inherited).withoutMapping =
      header.withoutMapping := by
  simp [withoutMapping]

namespace Node

mutual

/-- The expression without the mappings of its nodes. -/
def withoutMappings : Node → Node
  | .leaf header atom => .leaf header.withoutMapping atom
  | .apply header op operand =>
      .apply header.withoutMapping op operand.withoutMappings
  | .combine header op left right =>
      .combine header.withoutMapping op left.withoutMappings
        right.withoutMappings
  | .call header name arguments =>
      .call header.withoutMapping name (allWithoutMappings arguments)

/-- Several expressions without the mappings of their nodes. -/
def allWithoutMappings : List Node → List Node
  | [] => []
  | node :: rest => node.withoutMappings :: allWithoutMappings rest

end

theorem allWithoutMappings_eq_map (nodes : List Node) :
    allWithoutMappings nodes = nodes.map withoutMappings := by
  induction nodes with
  | nil => rfl
  | cons node rest inductionHypothesis =>
      simp [allWithoutMappings, inductionHypothesis]

@[simp] theorem withoutMappings_withMapping
    (node : Node)
    (mapping : TypeMapping) :
    (node.withMapping mapping).withoutMappings = node.withoutMappings := by
  cases node <;> rfl

/-- The part of an expression at the end of a way from the root, which names a
child at every node by its number. -/
def at? (node : Node) : List Nat → Option Node
  | [] => some node
  | index :: way => node.children[index]?.bind fun child => child.at? way

@[simp] theorem at?_nil (node : Node) : node.at? [] = some node := rfl

@[simp] theorem at?_cons (node : Node) (index : Nat) (way : List Nat) :
    node.at? (index :: way) = node.children[index]?.bind
      fun child => child.at? way :=
  rfl

variable (source : MappingSource)

/-- If an operand is kept apart from its mappings alone, it is so beside its
sibling. -/
theorem withoutMappings_inferBeside
    {node : Node}
    (sibling : Node)
    (kept : (node.infer source).withoutMappings = node.withoutMappings) :
    (node.inferBeside source sibling).withoutMappings =
      node.withoutMappings := by
  rcases inferBeside_cases source node sibling with
    alone | ⟨mapping, _, _, adopted, _, _⟩
  · rw [alone, kept]
  · rw [adopted, withoutMappings_withMapping]

/-- Without its mappings, an inferred expression is the same as before. -/
theorem withoutMappings_infer (node : Node) :
    (node.infer source).withoutMappings = node.withoutMappings := by
  induction node using inductUnmapped with
  | mapped node mapped => rw [infer_of_mapped source mapped]
  | leaf header atom unmapped => simp [withoutMappings]
  | apply header op operand unmapped inductionHypothesis =>
      rw [infer_apply source unmapped]
      simp [withoutMappings, inductionHypothesis]
  | combine header op left right unmapped leftHypothesis rightHypothesis =>
      rw [infer_combine source unmapped]
      simp [withoutMappings,
        withoutMappings_inferBeside source right leftHypothesis,
        withoutMappings_inferBeside source left rightHypothesis]
  | call header name arguments unmapped inductionHypothesis =>
      rw [infer_call source unmapped]
      simpa [withoutMappings, allWithoutMappings_eq_map]
        using inductionHypothesis

/-- The parts with a mapping of one expression stand in the same places in
another. -/
def KeepsMappedParts (before after : Node) : Prop :=
  ∀ way part, before.at? way = some part → part.mapping.isSome = true →
    after.at? way = some part

theorem KeepsMappedParts.refl (node : Node) : node.KeepsMappedParts node :=
  fun _ _ known _ => known

/-- A node without a mapping keeps its mapped parts if its children do, each in
its place. -/
theorem keepsMappedParts_of_children
    {before after : Node}
    (unmapped : before.mapping = none)
    (kept : ∀ (index : Nat) (child : Node),
      before.children[index]? = some child →
      ∃ other : Node, after.children[index]? = some other ∧
        child.KeepsMappedParts other) :
    before.KeepsMappedParts after := by
  intro way part known mapped
  cases way with
  | nil =>
      obtain rfl := Option.some.inj known
      simp [unmapped] at mapped
  | cons index way =>
      obtain ⟨child, childKnown, known⟩ := Option.bind_eq_some_iff.1 known
      obtain ⟨other, otherKnown, childKept⟩ := kept index child childKnown
      rw [at?_cons, otherKnown]
      exact childKept way part known mapped

/-- A new mapping for a node without one keeps the parts below it. -/
theorem keepsMappedParts_withMapping
    {node : Node}
    (unmapped : node.mapping = none)
    (mapping : TypeMapping) :
    node.KeepsMappedParts (node.withMapping mapping) := by
  refine keepsMappedParts_of_children unmapped ?_
  intro index child known
  exact ⟨child, by rw [children_withMapping, known], .refl child⟩

/-- If an operand keeps its mapped parts alone, it does so beside its
sibling. -/
theorem keepsMappedParts_inferBeside
    {node : Node}
    (sibling : Node)
    (kept : node.KeepsMappedParts (node.infer source)) :
    node.KeepsMappedParts (node.inferBeside source sibling) := by
  rcases inferBeside_cases source node sibling with
    alone | ⟨mapping, unmapped, _, adopted, _, _⟩
  · rwa [alone]
  · rw [adopted]
    exact keepsMappedParts_withMapping unmapped mapping

/-- Inference keeps the parts that have a mapping. -/
theorem keepsMappedParts_infer (node : Node) :
    node.KeepsMappedParts (node.infer source) := by
  induction node using inductUnmapped with
  | mapped node mapped =>
      rw [infer_of_mapped source mapped]
      exact .refl node
  | leaf header atom unmapped =>
      refine keepsMappedParts_of_children unmapped ?_
      simp [children]
  | apply header op operand unmapped inductionHypothesis =>
      rw [infer_apply source unmapped]
      refine keepsMappedParts_of_children unmapped ?_
      intro index child known
      obtain ⟨rfl, rfl⟩ : index = 0 ∧ operand = child := by
        simpa [children, List.getElem?_singleton] using known
      exact ⟨_, rfl, inductionHypothesis⟩
  | combine header op left right unmapped leftHypothesis rightHypothesis =>
      rw [infer_combine source unmapped]
      refine keepsMappedParts_of_children unmapped ?_
      intro index child known
      rcases index with _ | _ | index
      · obtain rfl := Option.some.inj known
        exact ⟨_, rfl, keepsMappedParts_inferBeside source right leftHypothesis⟩
      · obtain rfl := Option.some.inj known
        exact ⟨_, rfl, keepsMappedParts_inferBeside source left rightHypothesis⟩
      · simp [children] at known
  | call header name arguments unmapped inductionHypothesis =>
      rw [infer_call source unmapped]
      refine keepsMappedParts_of_children unmapped ?_
      intro index child known
      refine ⟨child.infer source, ?_,
        inductionHypothesis child (List.mem_of_getElem? known)⟩
      have argumentKnown : arguments[index]? = some child := known
      simp [children, argumentKnown]

/-- Inference only adds mappings. Without the mappings the expression is the
same as before, and a part that has a mapping stands unchanged in its place. -/
theorem infer_only_adds (node : Node) :
    (node.infer source).withoutMappings = node.withoutMappings ∧
      ∀ way part, node.at? way = some part → part.mapping.isSome = true →
        (node.infer source).at? way = some part :=
  ⟨withoutMappings_infer source node, keepsMappedParts_infer source node⟩

/-- The cast of a parameter to a store type of its own, as the argument of a
function: its mapping is kept, and so is the parameter below it, which has
none. -/
theorem infer_only_adds_around_cast :
    let code := Node.leaf ⟨.int32, none, false⟩ (.parameter "code")
    let short := TypeMapping.ofStoreType "varchar(10)" .string
    let finished := Node.apply ⟨.string, some short, false⟩ .cast code
    let upper := Node.call ⟨.string, none, false⟩ "UPPER" [finished]
    let source := Dialect.sqlServer.mappings
    upper.at? [0] = some finished ∧ finished.mapping.isSome = true ∧
      (upper.infer source).mapping = Dialect.sqlServer.mapping? .string ∧
      (upper.infer source).at? [0] = some finished := by
  intro code short finished upper source
  exact ⟨rfl, rfl, rfl, (infer_only_adds source upper).2 [0] finished rfl rfl⟩

end Node
end Sql
end QueryLowering
