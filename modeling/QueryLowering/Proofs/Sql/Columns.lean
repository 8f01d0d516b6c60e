import QueryLowering.Lowering.Operators
import QueryLowering.Proofs.Sql.Inference
import QueryLowering.Select

/-!
# Columns of expressions

The columns of an expression are those at its leaves, from left to right and
with repetitions. Inference, truth tests and other headers do not change them.

A select context that notes the use of columns appends those that are new to it,
each where it occurs first.
-/

namespace QueryLowering
namespace Sql

/-- The column of an atom, if it is one. -/
def Atom.columns : Atom → List ColumnRef
  | .column used => [used]
  | .fragment _ | .constant _ | .parameter _ => []

namespace Node

mutual

/-- The columns that occur in an expression, from left to right. -/
def columns : Node → List ColumnRef
  | .leaf _ atom => atom.columns
  | .apply _ _ operand => operand.columns
  | .combine _ _ left right => left.columns ++ right.columns
  | .call _ _ arguments => columnsOfAll arguments

/-- The columns that occur in several expressions, one after the other. -/
def columnsOfAll : List Node → List ColumnRef
  | [] => []
  | node :: rest => node.columns ++ columnsOfAll rest

end

theorem columnsOfAll_eq_flatMap (nodes : List Node) :
    columnsOfAll nodes = nodes.flatMap columns := by
  induction nodes with
  | nil => rfl
  | cons node rest inductionHypothesis =>
      simp [columnsOfAll, inductionHypothesis]

@[simp] theorem columns_leaf (header : Header) (atom : Atom) :
    (Node.leaf header atom).columns = atom.columns := by
  rw [columns]

@[simp] theorem columns_apply
    (header : Header)
    (op : UnaryOp)
    (operand : Node) :
    (Node.apply header op operand).columns = operand.columns := by
  rw [columns]

@[simp] theorem columns_combine
    (header : Header)
    (op : BinaryOp)
    (left right : Node) :
    (Node.combine header op left right).columns =
      left.columns ++ right.columns := by
  rw [columns]

@[simp] theorem columns_call
    (header : Header)
    (name : String)
    (arguments : List Node) :
    (Node.call header name arguments).columns = arguments.flatMap columns := by
  rw [columns, columnsOfAll_eq_flatMap]

@[simp] theorem columns_withHeader (node : Node) (header : Header) :
    (node.withHeader header).columns = node.columns := by
  cases node <;> simp [withHeader]

@[simp] theorem columns_withMapping (node : Node) (mapping : TypeMapping) :
    (node.withMapping mapping).columns = node.columns :=
  node.columns_withHeader _

@[simp] theorem columns_toNonNullable (node : Node) :
    node.toNonNullable.columns = node.columns :=
  node.columns_withHeader _

/-- An operand inferred beside its sibling has the columns that it has when it
is inferred alone, if these are its own. -/
theorem columns_inferBeside
    {source : MappingSource}
    {node : Node}
    (sibling : Node)
    (inferred : (node.infer source).columns = node.columns) :
    (node.inferBeside source sibling).columns = node.columns := by
  rcases inferBeside_cases source node sibling with
    alone | ⟨mapping, _, _, adopted, _, _⟩
  · rw [alone, inferred]
  · rw [adopted, columns_withMapping]

/-- Inference does not change the columns. -/
@[simp] theorem columns_infer (source : MappingSource) (node : Node) :
    (node.infer source).columns = node.columns := by
  induction node using inductUnmapped with
  | mapped node mapped => rw [infer_of_mapped source mapped]
  | leaf header atom unmapped => simp
  | apply header op operand unmapped inductionHypothesis =>
      rw [infer_apply source unmapped, columns_apply, columns_apply,
        inductionHypothesis]
  | combine header op left right unmapped leftHypothesis rightHypothesis =>
      rw [infer_combine source unmapped, columns_combine, columns_combine,
        columns_inferBeside right leftHypothesis,
        columns_inferBeside left rightHypothesis]
  | call header name arguments unmapped inductionHypothesis =>
      rw [infer_call source unmapped, columns_call, columns_call,
        List.flatMap_map]
      rw [List.flatMap_def, List.flatMap_def,
        List.map_congr_left inductionHypothesis]

/-- A truth test has the columns of the value that it tests. -/
@[simp] theorem columns_toCondition (canonical : TypeMapping) (node : Node) :
    (node.toCondition canonical).columns = node.columns := by
  unfold toCondition
  split
  · rfl
  · split
    · split
      · simp [binary, truth, constant, Atom.columns]
      · rfl
    · rfl

/-- The null constant has no columns, and no casts of it have any. -/
theorem columns_of_isNullLiteral
    {node : Node}
    (isNull : node.isNullLiteral = true) :
    node.columns = [] := by
  induction node using induct with
  | leaf header atom =>
      cases atom with
      | column column => simp [isNullLiteral] at isNull
      | _ => rw [columns_leaf, Atom.columns]
  | apply header op operand inductionHypothesis =>
      cases op with
      | cast =>
          simpa using inductionHypothesis
            (by simpa [isNullLiteral] using isNull)
      | _ => simp [isNullLiteral] at isNull
  | combine header op left right _ _ => simp [isNullLiteral] at isNull
  | call header name arguments _ => simp [isNullLiteral] at isNull

/-- A constant has no columns. -/
theorem columns_of_literal?
    {node : Node}
    {value : Literal}
    (known : node.literal? = some value) :
    node.columns = [] := by
  cases node with
  | leaf header atom =>
      cases atom with
      | column column => simp [literal?] at known
      | _ => rw [columns_leaf, Atom.columns]
  | _ => simp [literal?] at known

end Node
end Sql

namespace Lowering

variable {source : MappingSource}

@[simp] theorem columns_conditionOperand (node : Sql.Node) :
    (conditionOperand source node).columns = node.columns := by
  simp [conditionOperand]

@[simp] theorem columns_asText (mapping : TypeMapping) (operand : Sql.Node) :
    (asText mapping operand).columns = operand.columns := by
  unfold asText
  split
  · simp
  · simp [Sql.Node.cast]

/-- A binary operator has the columns of both operands. Where it becomes a null
test, the operand that is dropped has none. -/
theorem columns_combination
    (op : Query.BinaryOp)
    (valueType : ValueType)
    (left right : Sql.Node) :
    (combination source op valueType left right).columns =
      left.columns ++ right.columns := by
  unfold combination
  split
  · next tested =>
      have oneIsNull : left.isNullLiteral ≠ right.isNullLiteral := by
        simpa using (Bool.and_eq_true_iff.1 tested).2
      cases leftIsNull : left.isNullLiteral with
      | true =>
          simp [Sql.Node.nullTest, Sql.Node.columns_of_isNullLiteral leftIsNull]
      | false =>
          have rightIsNull : right.isNullLiteral = true := by
            simpa [leftIsNull] using oneIsNull
          simp [Sql.Node.nullTest,
            Sql.Node.columns_of_isNullLiteral rightIsNull]
  · split
    · simp [Sql.Node.binary]
    · simp [Sql.Node.binary]

end Lowering

namespace Select

/-- Noting columns appends the new ones, each where it occurs first. -/
theorem noteColumns_eq (select : Select) (columns : List Sql.ColumnRef) :
    select.noteColumns columns =
      { select with
        columns := select.columns ++
          (columns.filter (· ∉ select.columns)).eraseDups } := by
  induction columns generalizing select with
  | nil => simp [noteColumns]
  | cons column rest inductionHypothesis =>
      rw [noteColumns, List.foldl_cons, ← noteColumns, inductionHypothesis]
      by_cases known : column ∈ select.columns
      · simp [noteColumn, known]
      · have noted : select.noteColumn column =
            { select with columns := select.columns ++ [column] } :=
          if_neg known
        have firstIsNew : (column :: rest).filter (· ∉ select.columns) =
            column :: rest.filter (· ∉ select.columns) := by
          simp [known]
        have laterAreNew : rest.filter (· ∉ select.columns ++ [column]) =
            (rest.filter (· ∉ select.columns)).filter (!· == column) := by
          rw [List.filter_filter]
          refine List.filter_congr fun other _ => ?_
          by_cases same : other = column <;> simp [same]
        rw [noted, firstIsNew, List.eraseDups_cons, ← laterAreNew]
        simp

/-- Noting columns doubles none. -/
theorem nodup_noteColumns
    (select : Select)
    (columns : List Sql.ColumnRef)
    (distinct : select.columns.Nodup) :
    (select.noteColumns columns).columns.Nodup := by
  induction columns generalizing select with
  | nil => exact distinct
  | cons column rest inductionHypothesis =>
      refine inductionHypothesis (select.noteColumn column) ?_
      unfold noteColumn
      split
      · exact distinct
      · next isNew =>
          refine List.nodup_append.2 ⟨distinct, by simp, ?_⟩
          intro known inColumns added isColumn same
          obtain rfl := List.mem_singleton.1 isColumn
          exact isNew (same ▸ inColumns)

end Select
end QueryLowering
