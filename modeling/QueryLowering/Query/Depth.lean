import QueryLowering.Query

/-!
# Depth of query trees

The depth of a query is the number of nodes on a longest path from the root to
a leaf. It is computed with an explicit list of pending nodes, so that the size
of a tree and not its height bounds the work.
-/

namespace QueryLowering
namespace Query

mutual

/-- The number of nodes of a query. -/
def size : Query → Nat
  | .access inner _ => sizeOfInner inner + 1
  | .call target _ arguments => sizeOfInner target + sizeOfAll arguments + 1
  | .binary _ left right _ _ => left.size + right.size + 1
  | .unary _ operand _ => operand.size + 1
  | .constant _ _ => 1
  | .parameter _ _ => 1
  | .construction _ _ arguments => sizeOfAll arguments + 1
  | .shaper _ => 1
  | .extension _ children => sizeOfAll children + 1

/-- The number of nodes of an inner query that may be absent. -/
def sizeOfInner : Option Query → Nat
  | none => 0
  | some query => query.size

/-- The number of nodes of several queries. -/
def sizeOfAll : List Query → Nat
  | [] => 0
  | query :: rest => query.size + sizeOfAll rest

end

theorem sizeOfAll_append (left right : List Query) :
    sizeOfAll (left ++ right) = sizeOfAll left + sizeOfAll right := by
  induction left with
  | nil => simp [sizeOfAll]
  | cons query rest hypothesis => simp [sizeOfAll, hypothesis, Nat.add_assoc]

theorem sizeOfAll_toList (inner : Option Query) :
    sizeOfAll inner.toList = sizeOfInner inner := by
  cases inner <;> simp [sizeOfAll, sizeOfInner]

/-- A node is one more than its children. -/
theorem size_eq_children (query : Query) :
    query.size = sizeOfAll query.children + 1 := by
  cases query <;>
    simp [size, children, sizeOfAll, sizeOfAll_append, sizeOfAll_toList]

/-- The number of nodes of all pending queries. -/
def pendingSize : List (Query × Nat) → Nat
  | [] => 0
  | (query, _) :: rest => query.size + pendingSize rest

theorem pendingSize_append (left right : List (Query × Nat)) :
    pendingSize (left ++ right) = pendingSize left + pendingSize right := by
  induction left with
  | nil => simp [pendingSize]
  | cons entry rest hypothesis => simp [pendingSize, hypothesis, Nat.add_assoc]

theorem pendingSize_map (queries : List Query) (level : Nat) :
    pendingSize (queries.map fun query => (query, level)) =
      sizeOfAll queries := by
  induction queries with
  | nil => rfl
  | cons query rest hypothesis => simp [pendingSize, sizeOfAll, hypothesis]

/-- The greatest level of a node at or below the pending queries, each given
with its own level, and at least `deepest`. -/
def deepestLevel (pending : List (Query × Nat)) (deepest : Nat) : Nat :=
  match pending with
  | [] => deepest
  | (query, level) :: rest =>
      deepestLevel
        ((query.children.map fun child => (child, level + 1)) ++ rest)
        (max deepest level)
termination_by pendingSize pending
decreasing_by
  rw [pendingSize_append, pendingSize_map]
  simp only [pendingSize, size_eq_children]
  omega

/-- The number of nodes on a longest path from the root to a leaf. -/
def depth (query : Query) : Nat := deepestLevel [(query, 1)] 0

end Query
end QueryLowering
