import QueryLowering.Proofs.Sql.Inference
import QueryLowering.TypeMapping.Dialect

/-!
# When inference settles

Inference stops at mapped nodes, so a second run looks again only at those nodes
that stayed without a mapping, all of them on a path of such nodes from the
root. It finds new work in one situation: an operand was inferred before its
sibling had a mapping, stayed without one, and could take over the mapping that
its sibling has by now.

A result in which this occurs nowhere is settled. Exactly the settled results
are kept by a second run. Since no run gives a mapping to a node that the run
before left without one, what the second run leaves is always settled.
-/

namespace QueryLowering
namespace Sql
namespace Node

/-- The direct operands that inference looks at: those of a node without a
mapping. -/
def openChildren (node : Node) : List Node :=
  if node.mapping.isSome then [] else node.children

/-- A property holds of every node that inference looks at. -/
abbrev EverywhereOpen (holds : Node → Prop) (node : Node) : Prop :=
  Tree.Everywhere openChildren holds node

/-- An operand without a mapping could take over the one its sibling has. -/
def CanAdopt (node sibling : Node) : Prop :=
  node.mapping = none ∧ (node.adopted? sibling).isSome = true

/-- The node is a binary one without a mapping, and one of its operands could
take over the mapping of the other. -/
def HasAdopter : Node → Prop
  | .combine header _ left right =>
      header.mapping = none ∧ (left.CanAdopt right ∨ right.CanAdopt left)
  | .leaf _ _ | .apply _ _ _ | .call _ _ _ => False

/-- Among the nodes that inference looks at, no operand could take over a
mapping. -/
def IsSettled (node : Node) : Prop :=
  node.EverywhereOpen fun part => ¬ part.HasAdopter

section

variable {holds : Node → Prop}

/-- Inference looks at a finished node alone. -/
theorem everywhereOpen_of_mapped
    {node : Node}
    (mapped : node.mapping.isSome = true)
    (root : holds node) :
    node.EverywhereOpen holds := by
  rw [EverywhereOpen, Tree.everywhere_iff, openChildren, if_pos mapped]
  exact ⟨root, by simp⟩

/-- Inference looks at a node without a mapping and goes on with its
operands. -/
theorem everywhereOpen_iff_of_unmapped
    {node : Node}
    (unmapped : node.mapping = none) :
    node.EverywhereOpen holds ↔
      holds node ∧ ∀ child, child ∈ node.children →
        child.EverywhereOpen holds := by
  rw [EverywhereOpen, Tree.everywhere_iff, openChildren,
    if_neg (by simp [unmapped])]

end

theorem not_hasAdopter_of_mapped
    {node : Node}
    (mapped : node.mapping.isSome = true) :
    ¬ node.HasAdopter := by
  intro adopter
  cases node with
  | leaf header atom => exact adopter
  | apply header op operand => exact adopter
  | call header name arguments => exact adopter
  | combine header op left right =>
      have headerMapped : header.mapping.isSome = true := mapped
      simp [adopter.1] at headerMapped

/-- A finished node is settled. -/
theorem isSettled_of_mapped
    {node : Node}
    (mapped : node.mapping.isSome = true) :
    node.IsSettled :=
  everywhereOpen_of_mapped mapped (not_hasAdopter_of_mapped mapped)

theorem isSettled_leaf_of_unmapped
    {header : Header}
    (atom : Atom)
    (unmapped : (Node.leaf header atom).mapping = none) :
    (Node.leaf header atom).IsSettled := by
  rw [IsSettled, everywhereOpen_iff_of_unmapped unmapped]
  simp [HasAdopter, children]

theorem isSettled_apply_iff
    {header : Header}
    {op : UnaryOp}
    {operand : Node}
    (unmapped : (Node.apply header op operand).mapping = none) :
    (Node.apply header op operand).IsSettled ↔ operand.IsSettled := by
  rw [IsSettled, everywhereOpen_iff_of_unmapped unmapped]
  simp [HasAdopter, children, IsSettled]

theorem isSettled_combine_iff
    {header : Header}
    {op : BinaryOp}
    {left right : Node}
    (unmapped : (Node.combine header op left right).mapping = none) :
    (Node.combine header op left right).IsSettled ↔
      ¬ left.CanAdopt right ∧ ¬ right.CanAdopt left ∧ left.IsSettled ∧
        right.IsSettled := by
  have headerUnmapped : header.mapping = none := unmapped
  rw [IsSettled, everywhereOpen_iff_of_unmapped unmapped]
  simp [HasAdopter, children, IsSettled, headerUnmapped, and_assoc]

theorem isSettled_call_iff
    {header : Header}
    {name : String}
    {arguments : List Node}
    (unmapped : (Node.call header name arguments).mapping = none) :
    (Node.call header name arguments).IsSettled ↔
      ∀ argument, argument ∈ arguments → argument.IsSettled := by
  rw [IsSettled, everywhereOpen_iff_of_unmapped unmapped]
  simp [HasAdopter, children, IsSettled]

/-- An operand without a mapping that cannot adopt has nothing to take over. -/
theorem adopted?_eq_none_of_not_canAdopt
    {node sibling : Node}
    (unmapped : node.mapping = none)
    (cannot : ¬ node.CanAdopt sibling) :
    node.adopted? sibling = none := by
  cases adopts : node.adopted? sibling with
  | none => rfl
  | some mapping => exact absurd ⟨unmapped, by simp [adopts]⟩ cannot

variable (source : MappingSource)

/-- Inference gives a node no mapping that it does not have already. -/
def KeepsMapping (node : Node) : Prop :=
  (node.infer source).mapping = node.mapping

theorem keepsMapping_of_mapped
    {node : Node}
    (mapped : node.mapping.isSome = true) :
    node.KeepsMapping source := by
  rw [KeepsMapping, infer_of_mapped source mapped]

/-- What an operand carries after a run was carried by one of the two operands
before it, when neither of them is given a mapping on its own. -/
theorem mapping_inferBeside_of_keeps
    {node sibling : Node}
    {mapping : TypeMapping}
    (keeps : node.KeepsMapping source)
    (siblingKeeps : sibling.KeepsMapping source)
    (known : (node.inferBeside source sibling).mapping = some mapping) :
    node.mapping = some mapping ∨ sibling.mapping = some mapping := by
  rcases inferBeside_cases source node sibling with
    alone | ⟨adopted, _, _, takesOver, _, siblingKnown⟩
  · left
    rw [← keeps, ← alone]
    exact known
  · right
    rw [takesOver, mapping_withMapping] at known
    rw [← siblingKeeps, siblingKnown, known]

/-- A pair of operands passes on no new mapping when every mapping it carries
was carried before. -/
theorem inheritedFromPair_eq_none
    {op : BinaryOp}
    {valueType : ValueType}
    {left right first second : Node}
    (nothing : inheritedFromPair op valueType left right = none)
    (firstCarried : ∀ mapping, first.mapping = some mapping →
      left.mapping = some mapping ∨ right.mapping = some mapping)
    (secondCarried : ∀ mapping, second.mapping = some mapping →
      left.mapping = some mapping ∨ right.mapping = some mapping) :
    inheritedFromPair op valueType first second = none := by
  have firstMapping_eq_none : ∀ accepts : TypeMapping → Bool,
      firstMapping? accepts left right = none →
        firstMapping? accepts first second = none := by
    intro accepts noneAccepted
    simp only [firstMapping?, Option.or_eq_none_iff,
      Option.filter_eq_none_iff] at noneAccepted ⊢
    obtain ⟨leftRefused, rightRefused⟩ := noneAccepted
    constructor
    · intro mapping known
      exact (firstCarried mapping known).elim (leftRefused mapping)
        (rightRefused mapping)
    · intro mapping known
      exact (secondCarried mapping known).elim (leftRefused mapping)
        (rightRefused mapping)
  cases op <;> exact firstMapping_eq_none _ nothing

/-- An operand that was inferred beside a sibling is given no mapping of its own
by a second run, if that is so for the operand inferred alone. -/
theorem keepsMapping_inferBeside
    {node : Node}
    (sibling : Node)
    (keeps : (node.infer source).KeepsMapping source) :
    (node.inferBeside source sibling).KeepsMapping source := by
  refine inferBeside_of_mapped_of_alone source sibling ?_ keeps
  intro _ mapped
  exact keepsMapping_of_mapped source mapped

/-- A second run inherits nothing from operands where the first inherited
nothing. -/
theorem inherited_infer_eq_none
    {node : Node}
    (unmapped : node.mapping = none)
    (nothing : node.inherited source = none)
    (childKeeps : ∀ child, child ∈ node.children →
      (child.infer source).KeepsMapping source) :
    (node.infer source).inherited source = none := by
  cases node with
  | leaf header atom => rw [infer_leaf]; rfl
  | call header name arguments => rw [infer_call source unmapped]; rfl
  | apply header op operand =>
      have keeps := childKeeps operand (by simp [children])
      rw [infer_apply source unmapped]
      simp only [inherited, Header.valueType_resolve] at nothing ⊢
      cases op with
      | negate =>
          simp only [inheritedFromOperand] at nothing ⊢
          rw [keeps]
          exact nothing
      | cast => rfl
      | nullTest negated => rfl
      | not => rfl
  | combine header op left right =>
      have leftKeeps := keepsMapping_inferBeside source right
        (childKeeps left (by simp [children]))
      have rightKeeps := keepsMapping_inferBeside source left
        (childKeeps right (by simp [children]))
      rw [infer_combine source unmapped]
      simp only [inherited, Header.valueType_resolve] at nothing ⊢
      refine inheritedFromPair_eq_none nothing ?_ ?_
      · intro mapping known
        exact mapping_inferBeside_of_keeps source leftKeeps rightKeeps known
      · intro mapping known
        exact (mapping_inferBeside_of_keeps source rightKeeps leftKeeps
          known).symm

/-- A second run never gives the root a mapping. -/
theorem keepsMapping_infer (node : Node) :
    (node.infer source).KeepsMapping source := by
  -- whatever the root is, only its operands need the hypothesis
  have step : ∀ root : Node,
      (∀ child, child ∈ root.children →
        (child.infer source).KeepsMapping source) →
      (root.infer source).KeepsMapping source := by
    intro root childKeeps
    cases known : (root.infer source).mapping with
    | some mapping => exact keepsMapping_of_mapped source (by simp [known])
    | none =>
        have headerKnown :
            (root.header.resolve source (root.inherited source)).mapping =
              none := by
          rw [← header_infer]
          exact known
        obtain ⟨unmapped, value, nothing, notFound⟩ :=
          (Header.mapping_resolve_eq_none_iff source _ _).1 headerKnown
        have headerKept : (root.infer source).header = root.header := by
          rw [header_infer]
          exact Header.resolve_eq_self_of_unmapped source headerKnown
        rw [KeepsMapping, known, Node.mapping, header_infer, headerKept,
          inherited_infer_eq_none source unmapped nothing childKeeps]
        exact (Header.mapping_resolve_eq_none_iff source _ _).2
          ⟨unmapped, value, rfl, notFound⟩
  induction node using induct with
  | leaf header atom => exact step _ (by simp [children])
  | apply header op operand inductionHypothesis =>
      exact step _ (by simpa [children] using inductionHypothesis)
  | combine header op left right leftHypothesis rightHypothesis =>
      exact step _ (by simpa [children] using ⟨leftHypothesis, rightHypothesis⟩)
  | call header name arguments inductionHypothesis =>
      exact step _ (by simpa [children] using inductionHypothesis)

/-- Inference does not change the header of a node that it leaves without a
mapping. -/
theorem header_infer_of_keeps
    {node : Node}
    (unmapped : node.mapping = none)
    (keeps : node.KeepsMapping source) :
    (node.infer source).header = node.header := by
  have stillUnmapped := keeps.trans unmapped
  rw [Node.mapping, header_infer] at stillUnmapped
  rw [header_infer]
  exact Header.resolve_eq_self_of_unmapped source stillUnmapped

/-- An operand that is kept beside its sibling has nothing to take over from
it. -/
theorem not_canAdopt_of_inferBeside_eq_self
    {node sibling : Node}
    (unchanged : node.inferBeside source sibling = node) :
    ¬ node.CanAdopt sibling := by
  rintro ⟨unmapped, adopts⟩
  have keeps :=
    adopted?_eq_none_of_unmapped source (by rw [unchanged]; exact unmapped)
  simp [keeps] at adopts

/-- An operand that is kept beside its sibling is kept on its own. -/
theorem infer_eq_self_of_inferBeside_eq_self
    {node sibling : Node}
    (unchanged : node.inferBeside source sibling = node) :
    node.infer source = node := by
  cases known : node.mapping with
  | some mapping => exact infer_of_mapped source (by simp [known])
  | none =>
      rw [← inferBeside_eq_infer_of_unmapped source
        (by rw [unchanged]; exact known)]
      exact unchanged

/-- A node that inference does not change is settled. -/
theorem isSettled_of_infer_eq_self
    (node : Node)
    (unchanged : node.infer source = node) :
    node.IsSettled := by
  induction node using inductUnmapped with
  | mapped node mapped => exact isSettled_of_mapped mapped
  | leaf header atom unmapped => exact isSettled_leaf_of_unmapped atom unmapped
  | apply header op operand unmapped inductionHypothesis =>
      rw [infer_apply source unmapped] at unchanged
      simp only [Node.apply.injEq] at unchanged
      rw [isSettled_apply_iff unmapped]
      exact inductionHypothesis unchanged.2.2
  | combine header op left right unmapped leftHypothesis rightHypothesis =>
      rw [infer_combine source unmapped] at unchanged
      simp only [Node.combine.injEq] at unchanged
      obtain ⟨_, _, leftUnchanged, rightUnchanged⟩ := unchanged
      rw [isSettled_combine_iff unmapped]
      exact ⟨not_canAdopt_of_inferBeside_eq_self source leftUnchanged,
        not_canAdopt_of_inferBeside_eq_self source rightUnchanged,
        leftHypothesis
          (infer_eq_self_of_inferBeside_eq_self source leftUnchanged),
        rightHypothesis
          (infer_eq_self_of_inferBeside_eq_self source rightUnchanged)⟩
  | call header name arguments unmapped inductionHypothesis =>
      rw [infer_call source unmapped] at unchanged
      simp only [Node.call.injEq] at unchanged
      have argumentsUnchanged : arguments.map (infer source) =
          arguments.map id := by
        rw [List.map_id]
        exact unchanged.2.2
      rw [isSettled_call_iff unmapped]
      intro argument member
      exact inductionHypothesis argument member
        (List.map_inj_left.1 argumentsUnchanged argument member)

/-- An operand that cannot take over a mapping is kept beside its sibling, if it
is on its own and the sibling gets no mapping. -/
theorem inferBeside_eq_self
    {node sibling : Node}
    (cannot : ¬ node.CanAdopt sibling)
    (kept : node.infer source = node)
    (siblingKeeps : sibling.KeepsMapping source) :
    node.inferBeside source sibling = node := by
  cases known : node.mapping with
  | some mapping => exact inferBeside_of_mapped source sibling (by simp [known])
  | none =>
      have keeps := adopted?_eq_none_of_not_canAdopt known cannot
      rw [inferBeside_of_keeps source keeps ?_, kept]
      cases isNull : node.isNullConstant with
      | false => exact .inr (.inl rfl)
      | true =>
          -- the null constant would take over any mapping of its sibling
          have siblingUnmapped : sibling.mapping = none := by
            cases siblingKnown : sibling.mapping with
            | none => rfl
            | some mapping =>
                rw [(adopted?_eq_some_iff node sibling mapping).2
                  ⟨siblingKnown, .inl isNull⟩] at keeps
                cases keeps
          refine .inr (.inr ?_)
          rw [inferAlone_of_keeps source (adopted?_of_sibling_unmapped known),
            siblingKeeps, siblingUnmapped]

/-- After a run over two operands that are given no mappings of their own,
neither could take over the mapping of the other. -/
theorem not_canAdopt_inferBeside
    {node sibling : Node}
    (keeps : node.KeepsMapping source)
    (siblingKeeps : sibling.KeepsMapping source) :
    ¬ (node.inferBeside source sibling).CanAdopt
      (sibling.inferBeside source node) := by
  rintro ⟨unmapped, adopts⟩
  obtain ⟨mapping, adopted⟩ := Option.isSome_iff_exists.1 adopts
  obtain ⟨known, accepted⟩ := (adopted?_eq_some_iff _ _ mapping).1 adopted
  have nothing : node.adopted? sibling = none :=
    adopted?_eq_none_of_unmapped source unmapped
  rcases mapping_inferBeside_of_keeps source siblingKeeps keeps known with
    siblingKnown | ownKnown
  · have adoptedBefore : node.adopted? sibling = some mapping :=
      (adopted?_eq_some_iff node sibling mapping).2
        ⟨siblingKnown, by simpa using accepted⟩
    rw [nothing] at adoptedBefore
    cases adoptedBefore
  · rw [inferBeside_of_mapped source sibling (by simp [ownKnown]),
      ownKnown] at unmapped
    cases unmapped

/-- An operand is settled after a run beside its sibling, if it is after one
alone. -/
theorem isSettled_inferBeside
    {node : Node}
    (sibling : Node)
    (settled : (node.infer source).IsSettled) :
    (node.inferBeside source sibling).IsSettled := by
  refine inferBeside_of_mapped_of_alone source sibling ?_ settled
  intro _ mapped
  exact isSettled_of_mapped mapped

/-- Where no node gains a mapping, a settled expression is kept. -/
theorem infer_eq_self_of_isSettled
    (node : Node)
    (keeps : node.EverywhereOpen (KeepsMapping source))
    (settled : node.IsSettled) :
    node.infer source = node := by
  induction node using inductUnmapped with
  | mapped node mapped => exact infer_of_mapped source mapped
  | leaf header atom unmapped =>
      have headerKept := header_infer_of_keeps source unmapped keeps.root
      simpa using headerKept
  | apply header op operand unmapped inductionHypothesis =>
      have headerKept := header_infer_of_keeps source unmapped keeps.root
      obtain ⟨_, operandKeeps⟩ :=
        (everywhereOpen_iff_of_unmapped unmapped).1 keeps
      have operandKept :=
        inductionHypothesis (operandKeeps operand (by simp [children]))
          ((isSettled_apply_iff unmapped).1 settled)
      rw [infer_apply source unmapped, operandKept] at headerKept ⊢
      simpa using headerKept
  | combine header op left right unmapped leftHypothesis rightHypothesis =>
      have headerKept := header_infer_of_keeps source unmapped keeps.root
      obtain ⟨_, operandsKeep⟩ :=
        (everywhereOpen_iff_of_unmapped unmapped).1 keeps
      have leftKeeps := operandsKeep left (by simp [children])
      have rightKeeps := operandsKeep right (by simp [children])
      obtain ⟨leftCannot, rightCannot, leftSettled, rightSettled⟩ :=
        (isSettled_combine_iff unmapped).1 settled
      have leftKept := inferBeside_eq_self source leftCannot
        (leftHypothesis leftKeeps leftSettled) rightKeeps.root
      have rightKept := inferBeside_eq_self source rightCannot
        (rightHypothesis rightKeeps rightSettled) leftKeeps.root
      rw [infer_combine source unmapped, leftKept, rightKept] at headerKept ⊢
      simpa using headerKept
  | call header name arguments unmapped inductionHypothesis =>
      have headerKept := header_infer_of_keeps source unmapped keeps.root
      obtain ⟨_, argumentsKeep⟩ :=
        (everywhereOpen_iff_of_unmapped unmapped).1 keeps
      have argumentsSettled := (isSettled_call_iff unmapped).1 settled
      have argumentsKept : arguments.map (infer source) = arguments := by
        refine (List.map_congr_left ?_).trans arguments.map_id
        intro argument member
        exact inductionHypothesis argument member
          (argumentsKeep argument member) (argumentsSettled argument member)
      rw [infer_call source unmapped, argumentsKept] at headerKept ⊢
      simpa using headerKept

/-- Where no node gains a mapping, a run leaves a settled expression. -/
theorem isSettled_infer_of_keeps
    (node : Node)
    (keeps : node.EverywhereOpen (KeepsMapping source)) :
    (node.infer source).IsSettled := by
  induction node using inductUnmapped with
  | mapped node mapped =>
      rw [infer_of_mapped source mapped]
      exact isSettled_of_mapped mapped
  | leaf header atom unmapped =>
      have stillUnmapped := keeps.root.trans unmapped
      rw [infer_leaf] at stillUnmapped ⊢
      exact isSettled_leaf_of_unmapped atom stillUnmapped
  | apply header op operand unmapped inductionHypothesis =>
      have stillUnmapped := keeps.root.trans unmapped
      obtain ⟨_, operandKeeps⟩ :=
        (everywhereOpen_iff_of_unmapped unmapped).1 keeps
      rw [infer_apply source unmapped] at stillUnmapped ⊢
      rw [isSettled_apply_iff stillUnmapped]
      exact inductionHypothesis (operandKeeps operand (by simp [children]))
  | combine header op left right unmapped leftHypothesis rightHypothesis =>
      have stillUnmapped := keeps.root.trans unmapped
      obtain ⟨_, operandsKeep⟩ :=
        (everywhereOpen_iff_of_unmapped unmapped).1 keeps
      have leftKeeps := operandsKeep left (by simp [children])
      have rightKeeps := operandsKeep right (by simp [children])
      rw [infer_combine source unmapped] at stillUnmapped ⊢
      rw [isSettled_combine_iff stillUnmapped]
      exact ⟨not_canAdopt_inferBeside source leftKeeps.root rightKeeps.root,
        not_canAdopt_inferBeside source rightKeeps.root leftKeeps.root,
        isSettled_inferBeside source right (leftHypothesis leftKeeps),
        isSettled_inferBeside source left (rightHypothesis rightKeeps)⟩
  | call header name arguments unmapped inductionHypothesis =>
      have stillUnmapped := keeps.root.trans unmapped
      obtain ⟨_, argumentsKeep⟩ :=
        (everywhereOpen_iff_of_unmapped unmapped).1 keeps
      rw [infer_call source unmapped] at stillUnmapped ⊢
      rw [isSettled_call_iff stillUnmapped]
      intro argument member
      obtain ⟨previous, inArguments, rfl⟩ := List.mem_map.1 member
      exact inductionHypothesis previous inArguments
        (argumentsKeep previous inArguments)

/-- After a run, no node gains a mapping by another. -/
theorem everywhereOpen_keepsMapping_infer (node : Node) :
    (node.infer source).EverywhereOpen (KeepsMapping source) := by
  -- whatever the root is, only its operands need the hypothesis
  have step : ∀ root : Node,
      (∀ child, child ∈ (root.infer source).children →
        child.EverywhereOpen (KeepsMapping source)) →
      (root.infer source).EverywhereOpen (KeepsMapping source) := by
    intro root childrenKeep
    cases known : (root.infer source).mapping with
    | some mapping =>
        exact everywhereOpen_of_mapped (by simp [known])
          (keepsMapping_infer source root)
    | none =>
        exact (everywhereOpen_iff_of_unmapped known).2
          ⟨keepsMapping_infer source root, childrenKeep⟩
  have beside : ∀ operand sibling : Node,
      (operand.infer source).EverywhereOpen (KeepsMapping source) →
      (operand.inferBeside source sibling).EverywhereOpen
        (KeepsMapping source) := by
    intro operand sibling alone
    refine inferBeside_of_mapped_of_alone source sibling ?_ alone
    intro _ mapped
    exact everywhereOpen_of_mapped mapped (keepsMapping_of_mapped source mapped)
  induction node using inductUnmapped with
  | mapped node mapped =>
      rw [infer_of_mapped source mapped]
      exact everywhereOpen_of_mapped mapped
        (keepsMapping_of_mapped source mapped)
  | leaf header atom unmapped => exact step _ (by simp [children])
  | apply header op operand unmapped inductionHypothesis =>
      refine step _ ?_
      rw [infer_apply source unmapped]
      simpa [children] using inductionHypothesis
  | combine header op left right unmapped leftHypothesis rightHypothesis =>
      refine step _ ?_
      rw [infer_combine source unmapped]
      simpa [children] using ⟨beside left right leftHypothesis,
        beside right left rightHypothesis⟩
  | call header name arguments unmapped inductionHypothesis =>
      refine step _ ?_
      rw [infer_call source unmapped]
      simpa [children] using inductionHypothesis

/-- A second run keeps the result of the first exactly when that is settled, and
a third run always keeps the result of the second. -/
theorem infer_settles (node : Node) :
    ((node.infer source).infer source = node.infer source ↔
        (node.infer source).IsSettled) ∧
      ((node.infer source).infer source).infer source =
        (node.infer source).infer source := by
  have keeps := everywhereOpen_keepsMapping_infer source node
  constructor
  · constructor
    · exact isSettled_of_infer_eq_self source (node.infer source)
    · exact infer_eq_self_of_isSettled source (node.infer source) keeps
  · exact infer_eq_self_of_isSettled source ((node.infer source).infer source)
      (everywhereOpen_keepsMapping_infer source (node.infer source))
      (isSettled_infer_of_keeps source (node.infer source) keeps)

/-- A second run can find more to do than the first. Without a mapping for
decimals of its own, the source leaves it to the column below the negation to
give one to both factors, and it reaches the parameter only in the second
run. -/
theorem infer_not_idempotent :
    let source := Dialect.ansi.mappings.override ⟨[.decimal], [], none⟩
    let total :=
      column ⟨"o", "total"⟩ (.nonNull .decimal)
        (some (.ofStoreType "decimal(10, 2)" .decimal))
    let node :=
      binary .multiply (parameter "rate" (.nonNull .decimal))
        (total.negate (.nonNull .decimal)) .object
    (node.infer source).infer source ≠ node.infer source := by
  intro source total node unchanged
  have mappings := congrArg (fun node => node.children.map mapping) unchanged
  revert mappings
  decide

end Node
end Sql
end QueryLowering
