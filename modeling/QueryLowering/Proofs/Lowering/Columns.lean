import QueryLowering.Proofs.Lowering.Unsupported
import QueryLowering.Proofs.Sql.Columns

/-!
# Columns of results

The columns of a result are those of the expressions in it, from left to right.
An attempt that gives a result and binds just its columns is one of which
nothing is lost later. What a node makes of such attempts for its parts is an
attempt of this sort too, if the node keeps the parts.
-/

namespace QueryLowering

namespace Lowered

mutual

/-- The columns that occur in a result, from left to right. -/
def columns : Lowered → List Sql.ColumnRef
  | .sql node => node.columns
  | .convert operand _ => operand.columns
  | .projection fields => columnsOfFields fields
  | .extension _ children => columnsOfAll children
  | .shaper _ | .unsupported => []

/-- The columns that occur in fields, one after the other. -/
def columnsOfFields : List (String × Lowered) → List Sql.ColumnRef
  | [] => []
  | (_, value) :: rest => value.columns ++ columnsOfFields rest

/-- The columns that occur in several results, one after the other. -/
def columnsOfAll : List Lowered → List Sql.ColumnRef
  | [] => []
  | value :: rest => value.columns ++ columnsOfAll rest

end

@[simp] theorem columns_sql (node : Sql.Node) :
    (Lowered.sql node).columns = node.columns := by
  rw [columns]

@[simp] theorem columns_convert (operand : Lowered) (target : ValueType) :
    (Lowered.convert operand target).columns = operand.columns := by
  rw [columns]

@[simp] theorem columns_projection (fields : List (String × Lowered)) :
    (Lowered.projection fields).columns = fields.flatMap
      fun field => field.2.columns := by
  rw [columns]
  induction fields with
  | nil => rfl
  | cons field rest inductionHypothesis =>
      simp [columnsOfFields, inductionHypothesis]

@[simp] theorem columns_extension (name : String) (children : List Lowered) :
    (Lowered.extension name children).columns = children.flatMap columns := by
  rw [columns]
  induction children with
  | nil => rfl
  | cons child rest inductionHypothesis =>
      simp [columnsOfAll, inductionHypothesis]

/-- An operand of an operator has the columns of the result that it is taken
from. -/
theorem columns_of_operand?
    {result : Lowered}
    {node : Sql.Node}
    (known : result.operand? = some node) :
    result.columns = node.columns := by
  rcases (operand?_eq_some_iff result node).1 known with rfl | ⟨target, _, rfl⟩
  · rw [columns_sql]
  · rw [columns_convert, columns_sql]

/-- A result that an operator can take is complete. -/
theorem isComplete_of_operand?
    {result : Lowered}
    {node : Sql.Node}
    (known : result.operand? = some node) :
    result.isComplete = true := by
  rcases (operand?_eq_some_iff result node).1 known with rfl | ⟨target, _, rfl⟩
  · rfl
  · rfl

/-- The attempt that gives a result and binds the columns that occur in it. -/
def attempt (result : Lowered) : Attempt Lowered := ⟨result.columns, .ok result⟩

end Lowered

namespace Attempt

/-- What goes on with a result goes on after its columns. -/
theorem attempt_bind (result : Lowered) (next : Lowered → Attempt β) :
    result.attempt >>= next =
      ⟨result.columns ++ (next result).columns, (next result).result⟩ :=
  bind_of_ok next rfl

theorem sequence_map_attempt (values : List Lowered) :
    sequence (values.map Lowered.attempt) =
      ⟨values.flatMap Lowered.columns, .ok values⟩ := by
  induction values with
  | nil => rfl
  | cons value rest inductionHypothesis =>
      rw [List.map_cons, sequence, attempt_bind, inductionHypothesis,
        bind_of_ok _ rfl]
      simp

end Attempt

namespace Lowerer

variable {lowerer : Lowerer} {select : Select}

@[simp] theorem columns_finish (requireCondition : Bool) (result : Lowered) :
    (lowerer.finish requireCondition result).columns = result.columns := by
  cases result with
  | sql node => cases requireCondition <;> simp [finish]
  | _ => rfl

/-- The fields of a constructed object have the columns of their values. -/
theorem columns_fields
    {members : List String}
    {values : List Lowered}
    (sameLength : members.length = values.length) :
    (Lowered.projection (lowerer.fields members values)).columns =
      values.flatMap Lowered.columns := by
  have valuesOfFields :
      (lowerer.fields members values).map Prod.snd =
        values.map (lowerer.finish false) :=
    List.map_snd_zip (by simp [sameLength])
  calc
    _ = ((lowerer.fields members values).map Prod.snd).flatMap
          Lowered.columns := by
      simp [List.flatMap_map]
    _ = values.flatMap Lowered.columns := by
      simp [valuesOfFields, List.flatMap_map]

/-- A bound property is attempted with its column. -/
theorem bindProperty_eq_attempt
    {entity : EntityRef}
    {name : String}
    {result : Lowered}
    (bound : (lowerer.bindProperty select entity name).result = .ok result) :
    lowerer.bindProperty select entity name = result.attempt := by
  obtain ⟨entityType, property, column, entityKnown, propertyKnown,
      columnKnown, rfl⟩ :=
    (lowerer.result_bindProperty_eq_ok_iff select entity name result).1 bound
  simp [bindProperty, entityKnown, propertyKnown, columnKnown, Lowered.attempt,
    Select.columnNode, Sql.Node.column, Sql.Atom.columns]

/-- Arguments that are attempted with complete results become fields. -/
theorem lowerFields_map_attempt
    {members : List String}
    {values : List Lowered}
    (sameLength : members.length = values.length)
    (complete : ∀ value, value ∈ values → value.isComplete = true) :
    lowerer.lowerFields members (values.map Lowered.attempt) =
      ⟨values.flatMap Lowered.columns,
        .ok (some (lowerer.fields members values))⟩ := by
  induction members generalizing values with
  | nil =>
      obtain rfl : values = [] := List.length_eq_zero_iff.1 sameLength.symm
      rfl
  | cons member members inductionHypothesis =>
      cases values with
      | nil => simp at sameLength
      | cons value others =>
          obtain ⟨firstComplete, othersComplete⟩ :=
            List.forall_mem_cons.1 complete
          have others :=
            inductionHypothesis (by simpa using sameLength) othersComplete
          rw [List.map_cons, lowerFields, Attempt.attempt_bind,
            Lowering.field?_eq, if_pos firstComplete]
          simp [others, Attempt.bind_of_ok, fields]

/-- The queries of a list are attempted as their values are, each in its
place. -/
theorem visitAll_eq_map_attempt
    {queries : List Query}
    {values : List Lowered}
    (sameLength : queries.length = values.length)
    (visited : ∀ pair, pair ∈ queries.zip values →
      lowerer.visit select pair.1 = pair.2.attempt) :
    lowerer.visitAll select queries = values.map Lowered.attempt := by
  calc
    lowerer.visitAll select queries
        = ((queries.zip values).map Prod.fst).map (lowerer.visit select) := by
          rw [visitAll_eq_map, List.map_fst_zip (Nat.le_of_eq sameLength)]
    _ = ((queries.zip values).map Prod.snd).map Lowered.attempt := by
          rw [List.map_map, List.map_map]
          exact List.map_congr_left visited
    _ = values.map Lowered.attempt := by
          rw [List.map_snd_zip (Nat.le_of_eq sameLength.symm)]

/-- A target is attempted as its value is. -/
theorem visitInner_eq_attempt
    {target : Option Query}
    {value : Option Lowered}
    (sameShape : target.isSome = value.isSome)
    (visited : ∀ query result, target = some query → value = some result →
      lowerer.visit select query = result.attempt) :
    lowerer.visitInner select target =
      ⟨value.toList.flatMap Lowered.columns, .ok value⟩ := by
  cases target with
  | none =>
      obtain rfl : value = none := by simpa using sameShape.symm
      rfl
  | some query =>
      obtain ⟨result, rfl⟩ :=
        Option.isSome_iff_exists.1 (by simpa using sameShape.symm)
      rw [visitInner, visited query result rfl rfl, Attempt.attempt_bind]
      simp

/-- A member of what is attempted as its value is lowered after the columns of
the value. -/
theorem visit_access_of_attempt
    {inner : Query}
    {value : Lowered}
    (member : Member)
    (innerVisited : lowerer.visit select inner = value.attempt) :
    lowerer.visit select (.access (some inner) member) =
      ⟨value.columns ++
          (lowerer.lowerMember select member (some value)).columns,
        (lowerer.lowerMember select member (some value)).result⟩ := by
  rw [visit, visitInner, innerVisited, Attempt.attempt_bind,
    Attempt.bind_of_ok _ rfl]
  simp

/-- A call that is no property accessor is decided by the rules, after the
columns of its target and of its arguments. -/
theorem visit_call_of_attempts
    {target : Option Query}
    {method : Method}
    {arguments : List Query}
    {targetValue : Option Lowered}
    {values : List Lowered}
    (notAccessor : method.kind ≠ .propertyAccessor)
    (targetVisited : lowerer.visitInner select target =
      ⟨targetValue.toList.flatMap Lowered.columns, .ok targetValue⟩)
    (argumentsVisited : lowerer.visitAll select arguments =
      values.map Lowered.attempt) :
    lowerer.visit select (.call target method arguments) =
      ⟨(targetValue.toList ++ values).flatMap Lowered.columns,
        .ok (lowerer.applyRules lowerer.callRules
          ⟨targetValue, method, values⟩)⟩ := by
  have argumentsGiven : Attempt.sequence (lowerer.visitAll select arguments) =
      ⟨values.flatMap Lowered.columns, .ok values⟩ := by
    rw [argumentsVisited, Attempt.sequence_map_attempt]
  rw [visit_call_of_ok lowerer select notAccessor targetVisited argumentsGiven,
    List.flatMap_append]

/-- An object is constructed from complete arguments with all their columns. -/
theorem visit_construction_of_attempts
    {typeName : String}
    {members : List String}
    {arguments : List Query}
    {values : List Lowered}
    (nonempty : members ≠ [])
    (sameLength : members.length = values.length)
    (visited : lowerer.visitAll select arguments = values.map Lowered.attempt)
    (complete : ∀ value, value ∈ values → value.isComplete = true) :
    lowerer.visit select (.construction typeName members arguments) =
      (Lowered.projection (lowerer.fields members values)).attempt := by
  rw [visit, visited, lowerConstruction,
    if_neg (by simp [nonempty, sameLength]),
    lowerFields_map_attempt sameLength complete, Attempt.bind_of_ok _ rfl,
    Lowered.attempt, columns_fields sameLength]
  simp

/-- An extension node keeps its children with all their columns. -/
theorem visit_extension_of_attempts
    {children : List Query}
    {values : List Lowered}
    (name : String)
    (visited : lowerer.visitAll select children = values.map Lowered.attempt) :
    lowerer.visit select (.extension name children) =
      (Lowered.extension name values).attempt := by
  rw [visit, visited, Attempt.sequence_map_attempt, Attempt.bind_of_ok _ rfl]
  simp [Lowered.attempt]

end Lowerer

namespace Lowering

variable {source : MappingSource}

/-- A binary operator with a complete result has the columns of complete
operands. -/
theorem columns_binary
    {op : Query.BinaryOp}
    {method : Option Method}
    {valueType : ValueType}
    {left right result : Lowered}
    (combined : binary source op method valueType left right = .ok result)
    (complete : result.isComplete = true) :
    left.isComplete = true ∧ right.isComplete = true ∧
      result.columns = left.columns ++ right.columns := by
  rcases binary_cases combined with
    rfl | ⟨leftNode, rightNode, node, leftKnown, rightKnown, rfl, built⟩
  · cases complete
  · refine ⟨Lowered.isComplete_of_operand? leftKnown,
      Lowered.isComplete_of_operand? rightKnown, ?_⟩
    rw [Lowered.columns_of_operand? leftKnown,
      Lowered.columns_of_operand? rightKnown, Lowered.columns_sql]
    rcases built with ⟨_, concatenated⟩ | ⟨_, rfl⟩
    · obtain ⟨mapping, _, rfl⟩ :=
        (concatenation_eq_ok_iff source _ _ _).1 concatenated
      simp [Sql.Node.binary]
    · exact columns_combination op valueType leftNode rightNode

/-- A unary operator with a complete result has the columns of a complete
operand. -/
theorem columns_unary
    {op : Query.UnaryOp}
    {valueType : ValueType}
    {operand : Lowered}
    (complete : (unary source op valueType operand).isComplete = true) :
    operand.isComplete = true ∧
      (unary source op valueType operand).columns = operand.columns := by
  rcases unary_cases source op valueType operand with
    nothing | ⟨operandComplete, _, kept⟩ | ⟨node, rfl, _, _, given⟩ |
      ⟨node, known, _, given⟩ |
    ⟨node, known, _, given⟩
  · rw [nothing] at complete
    cases complete
  · exact ⟨operandComplete, by rw [kept, Lowered.columns_convert]⟩
  · refine ⟨rfl, ?_⟩
    rw [given]
    simp [Sql.Node.cast]
  · refine ⟨Lowered.isComplete_of_operand? known, ?_⟩
    rw [given, Lowered.columns_of_operand? known]
    simp [Sql.Node.not]
  · refine ⟨Lowered.isComplete_of_operand? known, ?_⟩
    rw [given, Lowered.columns_of_operand? known]
    simp [Sql.Node.negate]

end Lowering
end QueryLowering
