import QueryLowering.Proofs.Lowering.Unsupported
import QueryLowering.Proofs.Sql.Blank

/-!
# Operators without the texts of mappings

Operators look at their operands through the presence and the kind of mappings
alone. What they make of blanked operands is what they make of the operands,
blanked, and they fail alike.
-/

namespace QueryLowering

namespace Lowered

mutual

/-- The result with the mappings in all its expressions blanked. -/
def blank : Lowered → Lowered
  | .sql node => .sql node.blank
  | .shaper entity => .shaper entity
  | .convert operand target => .convert operand.blank target
  | .projection fields => .projection (blankFields fields)
  | .extension name children => .extension name (blankAll children)
  | .unsupported => .unsupported

/-- Fields with the mappings in all their expressions blanked. -/
def blankFields : List (String × Lowered) → List (String × Lowered)
  | [] => []
  | (member, value) :: rest => (member, value.blank) :: blankFields rest

/-- Several results with the mappings in all their expressions blanked. -/
def blankAll : List Lowered → List Lowered
  | [] => []
  | value :: rest => value.blank :: blankAll rest

end

@[simp] theorem blank_sql (node : Sql.Node) :
    (Lowered.sql node).blank = .sql node.blank := by
  rw [blank]

@[simp] theorem blank_shaper (entity : EntityRef) :
    (Lowered.shaper entity).blank = .shaper entity := by
  rw [blank]

@[simp] theorem blank_convert (operand : Lowered) (target : ValueType) :
    (Lowered.convert operand target).blank = .convert operand.blank target := by
  rw [blank]

@[simp] theorem blank_projection (fields : List (String × Lowered)) :
    (Lowered.projection fields).blank =
      .projection (fields.map (Prod.map id blank)) := by
  rw [blank]
  congr 1
  induction fields with
  | nil => rfl
  | cons field rest inductionHypothesis =>
      simp [blankFields, inductionHypothesis, Prod.map]

@[simp] theorem blank_extension (name : String) (children : List Lowered) :
    (Lowered.extension name children).blank =
      .extension name (children.map blank) := by
  rw [blank]
  congr 1
  induction children with
  | nil => rfl
  | cons child rest inductionHypothesis => simp [blankAll, inductionHypothesis]

@[simp] theorem blank_unsupported :
    Lowered.unsupported.blank = .unsupported := by
  rw [blank]

@[simp] theorem sql?_blank (result : Lowered) :
    result.blank.sql? = result.sql?.map Sql.Node.blank := by
  cases result <;> simp [sql?]

@[simp] theorem operand?_blank (result : Lowered) :
    result.blank.operand? = result.operand?.map Sql.Node.blank := by
  cases result with
  | convert operand target =>
      cases operand with
      | sql node => cases erased : target.isErased <;> simp [operand?, erased]
      | _ => simp [operand?]
  | _ => simp [operand?]

@[simp] theorem isComplete_blank (result : Lowered) :
    result.blank.isComplete = result.isComplete := by
  induction result using induct with
  | sql node => simp [isComplete]
  | shaper entity => simp
  | convert operand target inductionHypothesis =>
      simp [isComplete, inductionHypothesis]
  | projection fields inductionHypothesis =>
      rw [blank_projection, isComplete_projection, isComplete_projection,
        Bool.eq_iff_iff]
      simp only [List.all_eq_true, List.forall_mem_map, Prod.map_snd]
      exact forall_congr' fun field => forall_congr' fun member => by
        rw [inductionHypothesis field member]
  | extension name children inductionHypothesis =>
      rw [blank_extension, isComplete_extension, isComplete_extension,
        Bool.eq_iff_iff]
      simp only [List.all_eq_true, List.forall_mem_map]
      exact forall_congr' fun child => forall_congr' fun member => by
        rw [inductionHypothesis child member]
  | unsupported => simp

end Lowered

namespace Lowering

variable (source : MappingSource)

@[simp] theorem blank_conditionOperand (node : Sql.Node) :
    (conditionOperand source node).blank =
      conditionOperand source.blank node.blank := by
  simp [conditionOperand, MappingSource.blank]

@[simp] theorem blank_asText (mapping : TypeMapping) (operand : Sql.Node) :
    (asText mapping operand).blank = asText mapping.blank operand.blank := by
  unfold asText
  rw [Sql.Node.valueType_blank]
  split <;> simp

theorem concatenationMapping?_blank (left right : Sql.Node) :
    concatenationMapping? source.blank left.blank right.blank =
      (concatenationMapping? source left right).map TypeMapping.blank := by
  rw [concatenationMapping?, concatenationMapping?, ← Sql.Node.blank_infer,
    ← Sql.Node.blank_infer,
    Sql.Node.firstMapping?_blank TypeMapping.isTextual_blank,
    Sql.Node.firstMapping?_blank TypeMapping.isTextual_blank, Option.map_or]

/-- A concatenation finds a textual mapping by its kind, and fails alike without
one. -/
theorem blank_concatenation (left right : Sql.Node) :
    (concatenation source left right).map Sql.Node.blank =
      concatenation source.blank left.blank right.blank := by
  unfold concatenation
  dsimp only
  rw [← concatenationMapping?, ← concatenationMapping?,
    concatenationMapping?_blank]
  cases concatenationMapping? source left right with
  | none => simp [Except.map]
  | some mapping => simp [Except.map, ← Sql.Node.blank_infer, ← blank_asText]

theorem blank_combination
    (op : Query.BinaryOp)
    (valueType : ValueType)
    (left right : Sql.Node) :
    (combination source op valueType left right).blank =
      combination source.blank op valueType left.blank right.blank := by
  unfold combination
  simp only [Sql.Node.isNullLiteral_blank]
  split
  · cases left.isNullLiteral <;> simp
  · split <;> simp

/-- A binary operator fails alike on blanked operands. -/
theorem blank_binary
    (op : Query.BinaryOp)
    (method : Option Method)
    (valueType : ValueType)
    (left right : Lowered) :
    (binary source op method valueType left right).map Lowered.blank =
      binary source.blank op method valueType left.blank right.blank := by
  unfold binary
  rw [Lowered.operand?_blank, Lowered.operand?_blank]
  cases left.operand? with
  | none => simp [Except.map]
  | some leftNode =>
      cases right.operand? with
      | none => simp [Except.map]
      | some rightNode =>
          simp only [Option.map_some]
          split
          · rw [← blank_concatenation]
            cases concatenation source leftNode rightNode <;> simp [Except.map]
          · simp [Except.map, blank_combination]

theorem blank_unary
    (op : Query.UnaryOp)
    (valueType : ValueType)
    (operand : Lowered) :
    (unary source op valueType operand).blank =
      unary source.blank op valueType operand.blank := by
  unfold unary
  rw [Lowered.isComplete_blank]
  split
  · cases op with
    | convert =>
        cases operand with
        | sql node => simp only [Lowered.blank_sql]; split <;> simp
        | _ => simp
    | not =>
        rw [Lowered.operand?_blank]
        cases operand.operand? <;> simp
    | negate =>
        rw [Lowered.operand?_blank]
        cases operand.operand? <;> simp
  · simp

end Lowering
end QueryLowering
