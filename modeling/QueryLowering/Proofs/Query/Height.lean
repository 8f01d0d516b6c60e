import QueryLowering.Query.Depth

/-!
# Heights of query trees

The height of a query is one more than the greatest height of its children.

The depth is computed by a walk that takes the pending queries one after the
other. In whichever order it takes them, it ends after as many rounds as there
are nodes, and the deepest level that it has come to then is the height. So the
depth of a query is determined by the depths of its children.
-/

namespace QueryLowering
namespace Query

mutual

/-- One more than the greatest height of a child. -/
def height : Query → Nat
  | .access inner _ => heightOfInner inner + 1
  | .call target _ arguments =>
      max (heightOfInner target) (heightOfAll arguments) + 1
  | .binary _ left right _ _ => max left.height right.height + 1
  | .unary _ operand _ => operand.height + 1
  | .constant _ _ => 1
  | .parameter _ _ => 1
  | .construction _ _ arguments => heightOfAll arguments + 1
  | .shaper _ => 1
  | .extension _ children => heightOfAll children + 1

/-- The height of an inner query that may be absent. -/
def heightOfInner : Option Query → Nat
  | none => 0
  | some query => query.height

/-- The greatest height of several queries. -/
def heightOfAll : List Query → Nat
  | [] => 0
  | query :: rest => max query.height (heightOfAll rest)

end

theorem heightOfAll_append (left right : List Query) :
    heightOfAll (left ++ right) =
      max (heightOfAll left) (heightOfAll right) := by
  induction left with
  | nil => simp [heightOfAll]
  | cons query rest inductionHypothesis =>
      simp [heightOfAll, inductionHypothesis, Nat.max_assoc]

theorem heightOfAll_toList (inner : Option Query) :
    heightOfAll inner.toList = heightOfInner inner := by
  cases inner <;> simp [heightOfAll, heightOfInner]

theorem height_eq_children (query : Query) :
    query.height = heightOfAll query.children + 1 := by
  cases query <;>
    simp [height, children, heightOfAll, heightOfAll_append, heightOfAll_toList]

/-- The greatest level of a node at or below pending queries, each given with
its own level, and told by their heights. -/
def greatestLevel : List (Query × Nat) → Nat
  | [] => 0
  | (query, level) :: rest =>
      max (level + query.height - 1) (greatestLevel rest)

theorem greatestLevel_append (left right : List (Query × Nat)) :
    greatestLevel (left ++ right) =
      max (greatestLevel left) (greatestLevel right) := by
  induction left with
  | nil => simp [greatestLevel]
  | cons entry rest inductionHypothesis =>
      simp [greatestLevel, inductionHypothesis, Nat.max_assoc]

/-- Below one level, the height says how far down the nodes are. -/
theorem max_greatestLevel_map (queries : List Query) (level : Nat) :
    max level (greatestLevel (queries.map fun query => (query, level + 1))) =
      level + heightOfAll queries := by
  induction queries with
  | nil => simp [greatestLevel, heightOfAll]
  | cons query rest inductionHypothesis =>
      have oneAtLeast := query.height_eq_children
      simp only [List.map_cons, greatestLevel, heightOfAll]
      omega

/-- Nothing is pending when no node is. -/
theorem pendingSize_eq_zero_iff (pending : List (Query × Nat)) :
    pendingSize pending = 0 ↔ pending = [] := by
  cases pending with
  | nil => simp [pendingSize]
  | cons entry rest => simp [pendingSize, entry.1.size_eq_children]

/-- A walk over the nodes of a query after some rounds, with the queries that
are pending and the deepest level so far. A round takes any pending query, notes
its level and leaves the children in its place, one level below. -/
inductive Walks (query : Query) :
    (rounds : Nat) →
    (pending : List (Query × Nat)) →
    (deepest : Nat) →
    Prop
  | start : Walks query 0 [(query, 1)] 0
  | round
      {rounds level deepest : Nat}
      {before after : List (Query × Nat)}
      {part : Query} :
      Walks query rounds (before ++ (part, level) :: after) deepest →
      Walks query (rounds + 1)
        (before ++ (part.children.map fun child => (child, level + 1)) ++ after)
        (max deepest level)

namespace Walks

variable {query : Query} {rounds deepest : Nat} {pending : List (Query × Nat)}

/-- A round takes one node. -/
theorem rounds_add_pendingSize (walks : query.Walks rounds pending deepest) :
    rounds + pendingSize pending = query.size := by
  induction walks with
  | start => simp [pendingSize]
  | @round rounds level deepest before after part _ inductionHypothesis =>
      have oneMore := part.size_eq_children
      simp only [pendingSize_append, pendingSize,
        pendingSize_map] at inductionHypothesis ⊢
      omega

/-- The height is the deepest level so far, or one at or below the pending
queries. -/
theorem max_greatestLevel (walks : query.Walks rounds pending deepest) :
    max deepest (greatestLevel pending) = query.height := by
  induction walks with
  | start => simp [greatestLevel]
  | @round rounds level deepest before after part _ inductionHypothesis =>
      let below := part.children.map fun child => (child, level + 1)
      have reached : level + part.height - 1 =
          max level (greatestLevel below) := by
        rw [max_greatestLevel_map, part.height_eq_children]
        omega
      simp only [greatestLevel_append, greatestLevel,
        reached] at inductionHypothesis ⊢
      rw [← inductionHypothesis]
      ac_rfl

/-- A walk ends when it has taken every node, and not before. -/
theorem pending_eq_nil_iff (walks : query.Walks rounds pending deepest) :
    pending = [] ↔ rounds = query.size := by
  have oneEach := walks.rounds_add_pendingSize
  rw [← pendingSize_eq_zero_iff]
  omega

/-- A walk that has ended has come as deep as the query is high. -/
theorem deepest_eq_height (walks : query.Walks rounds [] deepest) :
    deepest = query.height := by
  simpa [greatestLevel] using walks.max_greatestLevel

/-- Any walk can be ended by always taking the first pending query. -/
theorem ends (walks : query.Walks rounds pending deepest) :
    query.Walks query.size [] (deepestLevel pending deepest) := by
  induction pending, deepest using deepestLevel.induct generalizing rounds with
  | case1 deepest =>
      obtain rfl := walks.pending_eq_nil_iff.1 rfl
      rwa [deepestLevel]
  | case2 deepest part level rest inductionHypothesis =>
      rw [deepestLevel]
      have next : query.Walks (rounds + 1)
          ([] ++ (part.children.map fun child => (child, level + 1)) ++ rest)
          (max deepest level) := round walks
      exact inductionHypothesis next

end Walks

/-- The depth is what a walk over all nodes finds. -/
theorem walks_depth (query : Query) : query.Walks query.size [] query.depth :=
  Walks.start.ends

/-- The depth is the height. -/
theorem depth_eq_height (query : Query) : query.depth = query.height :=
  query.walks_depth.deepest_eq_height

/-- The depth is one more than the greatest depth of a child. -/
theorem depth_eq_children (query : Query) :
    query.depth = (query.children.map depth).foldr max 0 + 1 := by
  have greatest : ∀ queries : List Query,
      (queries.map depth).foldr max 0 = heightOfAll queries := by
    intro queries
    induction queries with
    | nil => rfl
    | cons query rest inductionHypothesis =>
        simp [heightOfAll, inductionHypothesis, depth_eq_height]
  rw [greatest, depth_eq_height, height_eq_children]

end Query
end QueryLowering
