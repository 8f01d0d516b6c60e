import QueryLowering.Proofs.Lowering.Lowers
import QueryLowering.Proofs.Lowering.Step
import QueryLowering.Proofs.Sql.Inference

/-!
# Concatenations

An addition that is resolved to the overload that joins texts becomes a
concatenation of its operands, each a text or cast to one. All three nodes carry
one textual mapping, the first among four candidates: those that the operands
carry as they are lowered, left before right, and then those that inference
gives them. Without a candidate the addition fails, and this is the only failure
of its own.
-/

namespace QueryLowering

namespace Sql.Node

/-- The node carries a textual mapping. -/
def HasTextualMapping (node : Node) : Prop :=
  ∃ mapping, node.mapping = some mapping ∧ mapping.isTextual = true

/-- The first textual mapping among candidates, of which some may be missing. -/
def firstTextual? (candidates : List (Option TypeMapping)) :
    Option TypeMapping :=
  candidates.findSome? fun candidate => candidate.filter TypeMapping.isTextual

theorem firstTextual?_cons
    (candidate : Option TypeMapping)
    (others : List (Option TypeMapping)) :
    firstTextual? (candidate :: others) =
      (candidate.filter TypeMapping.isTextual).or (firstTextual? others) := by
  rw [firstTextual?, List.findSome?_cons]
  cases candidate.filter TypeMapping.isTextual <;> rfl

/-- The second node is the first under a mapping: nothing but the mapping of the
root differs. -/
inductive IsUnder (mapping : TypeMapping) : Node → Node → Prop
  | leaf (valueType : ValueType) (own : Option TypeMapping) (isCondition : Bool)
      (atom : Atom) :
      IsUnder mapping (.leaf ⟨valueType, own, isCondition⟩ atom)
        (.leaf ⟨valueType, some mapping, isCondition⟩ atom)
  | apply (valueType : ValueType) (own : Option TypeMapping)
      (isCondition : Bool) (op : UnaryOp) (operand : Node) :
      IsUnder mapping (.apply ⟨valueType, own, isCondition⟩ op operand)
        (.apply ⟨valueType, some mapping, isCondition⟩ op operand)
  | combine (valueType : ValueType) (own : Option TypeMapping)
      (isCondition : Bool) (op : BinaryOp) (left right : Node) :
      IsUnder mapping (.combine ⟨valueType, own, isCondition⟩ op left right)
        (.combine ⟨valueType, some mapping, isCondition⟩ op left right)
  | call (valueType : ValueType) (own : Option TypeMapping) (isCondition : Bool)
      (name : String) (arguments : List Node) :
      IsUnder mapping (.call ⟨valueType, own, isCondition⟩ name arguments)
        (.call ⟨valueType, some mapping, isCondition⟩ name arguments)

theorem isUnder_withMapping (mapping : TypeMapping) (node : Node) :
    node.IsUnder mapping (node.withMapping mapping) := by
  cases node <;> constructor

/-- `text` is the given expression as a text under a mapping: itself, but for
the mapping, if it is of the string kind, and else a cast of it to text, which
may be null when it may. -/
structure IsTextOf (mapping : TypeMapping) (expression text : Node) : Prop where
  ofKind : text.valueType.kind = .string
  mapped : text.mapping = some mapping
  kept : expression.valueType.kind = .string → expression.IsUnder mapping text
  converted : expression.valueType.kind ≠ .string →
    text = .apply
      ⟨⟨.string, expression.valueType.nullable⟩, some mapping, false⟩
      .cast expression

/-- `node` joins two expressions: both are inferred and made texts, and they
carry the same mapping as the node, the first textual one of those that the
expressions carry already and of those that they are inferred to have. -/
def Joins (source : MappingSource) (node left right : Node) : Prop :=
  ∃ mapping leftText rightText,
    firstTextual? [left.mapping, right.mapping, (left.infer source).mapping,
      (right.infer source).mapping] = some mapping ∧
    mapping.isTextual = true ∧
    (left.infer source).IsTextOf mapping leftText ∧
    (right.infer source).IsTextOf mapping rightText ∧
    node = .combine
      ⟨⟨.string, leftText.valueType.nullable || rightText.valueType.nullable⟩,
        some mapping, false⟩ .concat leftText rightText

end Sql.Node

namespace Lowering

open Sql.Node (HasTextualMapping firstTextual?)

theorem concatenationMapping?_eq_firstTextual?
    (source : MappingSource)
    (left right : Sql.Node) :
    concatenationMapping? source left right =
      firstTextual? [left.mapping, right.mapping, (left.infer source).mapping,
        (right.infer source).mapping] := by
  simp only [concatenationMapping?, Sql.Node.firstMapping?,
    Sql.Node.firstTextual?_cons, Option.or_assoc]
  simp [firstTextual?]

/-- An expression that carries a textual mapping is inferred to have it. -/
theorem hasTextualMapping_infer
    {source : MappingSource}
    {node : Sql.Node}
    (carried : node.HasTextualMapping) :
    (node.infer source).HasTextualMapping := by
  obtain ⟨mapping, known, textual⟩ := carried
  exact ⟨mapping,
    by rw [Sql.Node.infer_of_mapped source (by simp [known]), known], textual⟩

theorem filter_isTextual_eq_none_iff (node : Sql.Node) :
    node.mapping.filter TypeMapping.isTextual = none ↔
      ¬ node.HasTextualMapping := by
  simp [HasTextualMapping]

/-- No mapping is found exactly when no operand is inferred to have a textual
one. -/
theorem concatenationMapping?_eq_none_iff
    (source : MappingSource)
    (left right : Sql.Node) :
    concatenationMapping? source left right = none ↔
      ¬ (left.infer source).HasTextualMapping ∧
        ¬ (right.infer source).HasTextualMapping := by
  simp only [concatenationMapping?, Sql.Node.firstMapping?,
    Option.or_eq_none_iff, filter_isTextual_eq_none_iff]
  constructor
  · rintro ⟨_, inferred⟩
    exact inferred
  · rintro ⟨leftPlain, rightPlain⟩
    exact ⟨⟨mt hasTextualMapping_infer leftPlain,
        mt hasTextualMapping_infer rightPlain⟩, leftPlain, rightPlain⟩

/-- A text operand is the text of its expression. -/
theorem isTextOf_asText (mapping : TypeMapping) (expression : Sql.Node) :
    expression.IsTextOf mapping (asText mapping expression) := by
  unfold asText
  split
  · next textual =>
      have isText : expression.valueType.kind = .string := by
        simpa [ValueType.isTextual] using textual
      exact ⟨by simpa using isText, by simp,
        fun _ => Sql.Node.isUnder_withMapping _ _,
        fun other => absurd isText other⟩
  · next notTextual =>
      have other : expression.valueType.kind ≠ .string := by
        simpa [ValueType.isTextual] using notTextual
      exact ⟨rfl, rfl, fun isText => absurd isText other, fun _ => rfl⟩

/-- A concatenation that does not fail joins its operands under a textual
mapping. -/
theorem joins_of_concatenation
    {source : MappingSource}
    {left right node : Sql.Node}
    (concatenated : concatenation source left right = .ok node) :
    node.Joins source left right ∧ node.HasTextualMapping := by
  obtain ⟨mapping, known, rfl⟩ :=
    (concatenation_eq_ok_iff source _ _ _).1 concatenated
  have textual := isTextual_of_concatenationMapping? known
  rw [concatenationMapping?_eq_firstTextual?] at known
  exact ⟨⟨mapping, _, _, known, textual, isTextOf_asText _ _,
      isTextOf_asText _ _, rfl⟩, mapping, rfl, textual⟩

/-- A concatenation fails if no operand is inferred to have a textual mapping,
and else it joins its operands. -/
theorem concatenation_cases (source : MappingSource) (left right : Sql.Node) :
    (¬ (left.infer source).HasTextualMapping ∧
      ¬ (right.infer source).HasTextualMapping ∧
      concatenation source left right =
        .error (.concatMappingNotInferred left.valueType right.valueType)) ∨
    (((left.infer source).HasTextualMapping ∨
        (right.infer source).HasTextualMapping) ∧
      ∃ node, concatenation source left right = .ok node ∧
        node.Joins source left right) := by
  have found := concatenationMapping?_eq_none_iff source left right
  cases known : concatenationMapping? source left right with
  | none =>
      obtain ⟨leftPlain, rightPlain⟩ := found.1 known
      have failed : concatenation source left right =
          .error (.concatMappingNotInferred left.valueType
            right.valueType) := by
        unfold concatenation
        dsimp only
        rw [← concatenationMapping?, known]
        simp
      exact .inl ⟨leftPlain, rightPlain, failed⟩
  | some mapping =>
      have concatenated :=
        (concatenation_eq_ok_iff source left right _).2 ⟨mapping, known, rfl⟩
      refine .inr ⟨?_, _, concatenated, (joins_of_concatenation concatenated).1⟩
      rw [or_iff_not_and_not, ← found, known]
      simp

/-- An operator over anything but SQL, bare or under one conversion to the
erased type, is unsupported. -/
theorem binary_of_no_operand
    {source : MappingSource}
    {left right : Lowered}
    (op : Query.BinaryOp)
    (method : Option Method)
    (valueType : ValueType)
    (noOperand : left.operand? = none ∨ right.operand? = none) :
    binary source op method valueType left right = .ok .unsupported := by
  unfold binary
  split
  · next leftNode rightNode leftKnown rightKnown =>
      rw [leftKnown, rightKnown] at noOperand
      simp at noOperand
  · rfl

/-- An addition that joins texts is a concatenation of its SQL operands. -/
theorem binary_of_joinsTexts
    {source : MappingSource}
    {method : Method}
    {left right : Lowered}
    {leftNode rightNode : Sql.Node}
    (valueType : ValueType)
    (joins : method.isStringConcat = true)
    (leftKnown : left.operand? = some leftNode)
    (rightKnown : right.operand? = some rightNode) :
    binary source .add (some method) valueType left right =
      (concatenation source leftNode rightNode).map .sql := by
  have joinsTexts : joinsTexts .add (some method) = true := by
    simp [joinsTexts, joins]
  simp only [binary, leftKnown, rightKnown]
  rw [if_pos joinsTexts]

end Lowering

namespace Lowerer

/-- At the root nothing is left to do for an expression with a textual mapping
that is no condition. -/
theorem finish_of_hasTextualMapping
    {lowerer : Lowerer}
    {node : Sql.Node}
    (requireCondition : Bool)
    (textual : node.HasTextualMapping) :
    lowerer.finish requireCondition (.sql node) = .sql node := by
  obtain ⟨mapping, known, ofText⟩ := textual
  have isString : mapping.kind = .string := by
    simpa [TypeMapping.isTextual] using ofText
  rw [finish_sql, Sql.Node.infer_of_mapped lowerer.mappings (by simp [known])]
  simp [Sql.Node.toCondition, known, isString]

/-- An addition that joins texts is the same at the root as in place. -/
theorem map_finish_of_joinsTexts
    {lowerer : Lowerer}
    {method : Method}
    {valueType : ValueType}
    {left right : Lowered}
    (requireCondition : Bool)
    (joins : method.isStringConcat = true) :
    (Lowering.binary lowerer.mappings .add (some method) valueType
        left right).map (lowerer.finish requireCondition) =
      Lowering.binary lowerer.mappings .add (some method) valueType
        left right := by
  cases given : Lowering.binary lowerer.mappings .add (some method) valueType
      left right with
  | error error => rfl
  | ok result =>
      have joinsTexts : Lowering.joinsTexts .add (some method) = true := by
        simp [Lowering.joinsTexts, joins]
      rcases Lowering.binary_cases given with
        rfl | ⟨_, _, node, _, _, rfl, ⟨_, concatenated⟩ | ⟨notJoined, _⟩⟩
      · rfl
      · exact congrArg Except.ok (finish_of_hasTextualMapping requireCondition
          (Lowering.joins_of_concatenation concatenated).2)
      · rw [joinsTexts] at notJoined
        cases notJoined

/-- An addition that joins texts, over operands that give values. Unless both
are SQL, bare or under one conversion to the erased type, it is unsupported.
Else it fails exactly when neither operand is inferred to have a textual
mapping, and otherwise joins the operands. At the root of a query that is not
too deep it gives the same. -/
theorem lower_joinsTexts
    (lowerer : Lowerer)
    (select : Select)
    (left right : Query)
    (method : Method)
    (valueType : ValueType)
    (leftValue rightValue : Lowered)
    (joins : method.isStringConcat = true)
    (leftGiven : (lowerer.visit select left).result = .ok leftValue)
    (rightGiven : (lowerer.visit select right).result = .ok rightValue) :
    let query := Query.binary .add left right (some method) valueType
    let result := (lowerer.visit select query).result
    (leftValue.operand? = none ∨ rightValue.operand? = none →
        result = .ok .unsupported) ∧
      (∀ leftNode rightNode,
        leftValue.operand? = some leftNode →
        rightValue.operand? = some rightNode →
        (result = .error
            (.concatMappingNotInferred leftNode.valueType rightNode.valueType) ↔
          ¬ (leftNode.infer lowerer.mappings).HasTextualMapping ∧
            ¬ (rightNode.infer lowerer.mappings).HasTextualMapping) ∧
        ((leftNode.infer lowerer.mappings).HasTextualMapping ∨
            (rightNode.infer lowerer.mappings).HasTextualMapping →
          ∃ node, result = .ok (.sql node) ∧
            node.Joins lowerer.mappings leftNode rightNode)) ∧
      (∀ requireCondition, query.depth ≤ lowerer.settings.maxDepth.toNat →
        (lowerer.lower select query requireCondition).1 = result) := by
  intro query result
  have visited : result =
      Lowering.binary lowerer.mappings .add (some method) valueType
        leftValue rightValue :=
    congrArg Attempt.result
      (lowerer.visit_binary_of_ok select .add (some method) valueType
        leftGiven rightGiven)
  refine ⟨?_, ?_, ?_⟩
  · intro noOperand
    rw [visited]
    exact Lowering.binary_of_no_operand .add (some method) valueType noOperand
  · intro leftNode rightNode leftKnown rightKnown
    rw [visited,
      Lowering.binary_of_joinsTexts valueType joins leftKnown rightKnown]
    rcases Lowering.concatenation_cases lowerer.mappings leftNode rightNode with
      ⟨leftPlain, rightPlain, failed⟩ | ⟨textual, node, concatenated, joined⟩
    · rw [failed]
      exact ⟨iff_of_true rfl ⟨leftPlain, rightPlain⟩,
        fun textual => (textual.elim leftPlain rightPlain).elim⟩
    · rw [concatenated]
      refine ⟨iff_of_false (by rintro ⟨⟩) ?_, fun _ => ⟨node, rfl, joined⟩⟩
      rintro ⟨leftPlain, rightPlain⟩
      exact textual.elim leftPlain rightPlain
  · intro requireCondition shallow
    rw [lower_of_shallow lowerer select requireCondition shallow]
    show result.map _ = result
    rw [visited]
    exact map_finish_of_joinsTexts requireCondition joins

/-- A number, converted to the erased type, is cast to text under the mapping of
the column that it is joined with. -/
theorem lower_joinsTexts_label :
    let source := Dialect.sqlServer.mappings
    let name : Property := ⟨"Name", "name", .string, some "nvarchar(40)"⟩
    let model : EntityModel := ⟨[⟨"Customer", "customers", [name]⟩]⟩
    let select : Select := ⟨source, [⟨"c", "customers", "Customer", ⟨0⟩⟩], []⟩
    let lowerer := withBuiltInRules model source .standard
    let count := Query.unary .convert (.parameter "count" .int32) .object
    let read :=
      Query.access (some (.shaper ⟨"Customer", ⟨0⟩⟩)) ⟨.object, "Name", .string⟩
    let number := Sql.Node.leaf ⟨.int32, none, false⟩ (.parameter "count")
    let inferred := Sql.Node.leaf
      ⟨.int32, some (.ofStoreType "int" .int32), false⟩ (.parameter "count")
    let mapping := TypeMapping.ofStoreType "nvarchar(40)" .string
    let stored :=
      Sql.Node.leaf ⟨.string, some mapping, false⟩ (.column ⟨"c", "name"⟩)
    let node := Sql.Node.combine ⟨.string, some mapping, false⟩ .concat
      (.apply ⟨.string, some mapping, false⟩ .cast inferred) stored
    Method.stringConcat.isStringConcat = true ∧
      (lowerer.visit select count).result =
        .ok (.convert (.sql number) .object) ∧
      (lowerer.visit select read).result = .ok (.sql stored) ∧
      number.infer source = inferred ∧
      (lowerer.lower select (.stringConcat count read) true).1 =
        .ok (.sql node) ∧
      node.Joins source number stored := by
  intro source name model select lowerer count read number inferred mapping
    stored node
  have joins : Method.stringConcat.isStringConcat = true := by
    simp [Method.isStringConcat, Method.stringConcat,
      Text.equalIgnoringAsciiCase]
  have countGiven : (lowerer.visit select count).result =
      .ok (.convert (.sql number) .object) := by cbv
  have readGiven : (lowerer.visit select read).result = .ok (.sql stored) := by
    cbv
  obtain ⟨_, ofOperands, atRoot⟩ :=
    lower_joinsTexts lowerer select count read .stringConcat .string _ _ joins
      countGiven readGiven
  have textual : (stored.infer source).HasTextualMapping := ⟨_, rfl, rfl⟩
  obtain ⟨joined, given, isJoined⟩ :=
    (ofOperands number stored rfl rfl).2 (.inr textual)
  have rootGiven := (atRoot true (Nat.le_of_ble_eq_true (by cbv))).trans given
  -- the two operands and their mapping leave one node only
  have same : joined = node := by
    obtain ⟨found, leftText, rightText, known, _, ofLeft, ofRight, rfl⟩ :=
      isJoined
    obtain rfl : mapping = found := Option.some.inj known
    obtain rfl := ofLeft.converted (by decide)
    obtain ⟨⟩ := ofRight.kept rfl
    rfl
  rw [same] at rootGiven isJoined
  exact ⟨joins, countGiven, readGiven, rfl, rootGiven, isJoined⟩

end Lowerer
end QueryLowering
