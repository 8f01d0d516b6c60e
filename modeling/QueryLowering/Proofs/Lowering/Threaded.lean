import QueryLowering.Proofs.Lowering.Order

/-!
# Lowering in one context after the other

The attempts for the parts of a query are all made in the context that was there
before the query. Here each part is lowered in the context that the parts before
it leave behind, with the columns noted that they bound. This gives the same
result or error, and notes the same columns: a part depends on the tables and
the mappings of its context alone.
-/

namespace QueryLowering

theorem Select.noteColumns_append
    (select : Select)
    (first second : List Sql.ColumnRef) :
    select.noteColumns (first ++ second) =
      (select.noteColumns first).noteColumns second :=
  List.foldl_append

/-- Work on a context: a value or an error, and the context afterwards. What was
done before an error stays done. -/
def Session (α : Type) := Select → Except LoweringError α × Select

namespace Session

/-- The session that gives a value and leaves the context as it is. -/
protected def pure (value : α) : Session α := fun select => (.ok value, select)

/-- The session that has a result and leaves the context as it is. -/
def ofExcept (result : Except LoweringError α) : Session α :=
  fun select => (result, select)

/-- Go on with the value of a session in the context that it leaves. -/
protected def bind (session : Session α) (next : α → Session β) : Session β :=
  fun select =>
    match session select with
    | (.ok value, after) => next value after
    | (.error error, after) => (.error error, after)

instance : Monad Session where
  pure := Session.pure
  bind := Session.bind

/-- One session after the other. -/
def sequence : List (Session α) → Session (List α)
  | [] => pure []
  | session :: rest => do
      let value ← session
      let values ← sequence rest
      return value :: values

/-- The session does in any context what an attempt there does, and the columns
of the context make no difference to the attempt. -/
structure Performs
    (session : Session α)
    (attempt : Select → Attempt α) : Prop where
  run : ∀ select,
    session select =
      ((attempt select).result, select.noteColumns (attempt select).columns)
  stable : ∀ select columns,
    attempt (select.noteColumns columns) = attempt select

theorem performs_pure (value : α) :
    (pure value : Session α).Performs fun _ => pure value :=
  ⟨fun _ => rfl, fun _ _ => rfl⟩

theorem performs_ofExcept (result : Except LoweringError α) :
    (ofExcept result).Performs fun _ => .ofExcept result :=
  ⟨fun _ => rfl, fun _ _ => rfl⟩

/-- The step from part to part: the next attempt may as well be made in the
context before. -/
theorem Performs.bind
    {session : Session α}
    {attempt : Select → Attempt α}
    {next : α → Session β}
    {nextAttempt : Select → α → Attempt β}
    (first : session.Performs attempt)
    (later : ∀ value, (next value).Performs
      fun select => nextAttempt select value) :
    (session >>= next).Performs
      fun select => attempt select >>= nextAttempt select where
  run select := by
    show Session.bind session next select = _
    cases given : (attempt select).result with
    | error error =>
        rw [Session.bind, first.run, given, Attempt.bind_of_error _ given]
    | ok value =>
        rw [Session.bind, first.run, given, Attempt.bind_of_ok _ given]
        dsimp only
        -- the columns that the first part has noted are no concern of the next
        rw [(later value).run, (later value).stable, Select.noteColumns_append]
  stable select columns := by
    have sameNext : nextAttempt (select.noteColumns columns) =
        nextAttempt select :=
      funext fun value => (later value).stable select columns
    rw [first.stable, sameNext]

/-- Sessions one after the other do what the attempts do that are made side by
side. -/
theorem performs_sequence
    {parts : List π}
    {session : π → Session α}
    {attempt : Select → π → Attempt α}
    (each : ∀ part, part ∈ parts → (session part).Performs
      fun select => attempt select part) :
    (sequence (parts.map session)).Performs fun select =>
      Attempt.sequence (parts.map (attempt select)) := by
  induction parts with
  | nil => exact performs_pure []
  | cons part rest inductionHypothesis =>
      obtain ⟨first, others⟩ := List.forall_mem_cons.1 each
      refine first.bind fun value => ?_
      exact (inductionHypothesis others).bind
        fun values => performs_pure (value :: values)

end Session

namespace Lowerer
namespace Threaded

variable (lowerer : Lowerer)

/-- Bind a property of an entity in the context. -/
def bindProperty (entity : EntityRef) (name : String) : Session Lowered :=
  fun select =>
    match lowerer.model.entity? entity.entityType with
    | none => (.error (.unknownEntityType entity.entityType), select)
    | some entityType =>
        match entityType.property? name with
        | none => (.error (.propertyNotFound entityType.name name), select)
        | some property =>
            match select.bind entity.buffer property with
            | (.error error, after) => (.error (.unboundBuffer error), after)
            | (.ok node, after) => (.ok (.sql node), after)

/-- Lower a member, given its lowered inner expression. -/
def lowerMember (member : Member) (inner : Option Lowered) : Session Lowered :=
  match inner with
  | some (.shaper entity) => bindProperty lowerer entity member.name
  | some (.sql node) =>
      if member.isNullableValue then pure (.sql node.toNonNullable)
      else
        pure (lowerer.applyRules lowerer.memberRules ⟨some (.sql node), member⟩)
  | inner => pure (lowerer.applyRules lowerer.memberRules ⟨inner, member⟩)

/-- Lower a call by the rules: first the target, then the arguments that are not
lowered yet. -/
def lowerRuleCall
    (method : Method)
    (target : Session (Option Lowered))
    (lowered : List Lowered)
    (arguments : List (Session Lowered)) :
    Session Lowered := do
  let target ← target
  let arguments ← Session.sequence arguments
  return lowerer.applyRules lowerer.callRules
    ⟨target, method, lowered ++ arguments⟩

/-- Lower a call. A property accessor lowers its first argument before the
target. -/
def lowerCall
    (method : Method)
    (accessed : Option String)
    (target : Session (Option Lowered))
    (arguments : List (Session Lowered)) :
    Session Lowered :=
  match accessed, arguments with
  | some name, first :: rest => do
      match ← first with
      | .shaper entity => bindProperty lowerer entity name
      | first => lowerRuleCall lowerer method target [first] rest
  | _, arguments => lowerRuleCall lowerer method target [] arguments

/-- Lower the fields of a constructed object in order, up to the first that is
not complete. -/
def lowerFields :
    (members : List String) →
    (arguments : List (Session Lowered)) →
    Session (Option (List (String × Lowered)))
  | member :: members, argument :: arguments => do
      match Lowering.field? lowerer.mappings (← argument) with
      | none => return none
      | some value =>
          let rest ← lowerFields members arguments
          return rest.map fun fields => (member, value) :: fields
  | _, _ => return some []

/-- Lower a constructed object. -/
def lowerConstruction
    (members : List String)
    (arguments : List (Session Lowered)) :
    Session Lowered :=
  if members.isEmpty || members.length != arguments.length then
    pure .unsupported
  else do
    match ← lowerFields lowerer members arguments with
    | some fields => return .projection fields
    | none => return .unsupported

mutual

/-- Lower a query in the context, one part after the other. -/
def visit : Query → Session Lowered
  | .access inner member => do
      lowerMember lowerer member (← visitInner inner)
  | .call target method arguments =>
      lowerCall lowerer method (accessedProperty? method arguments)
        (visitInner target) (visitAll arguments)
  | .binary op left right method valueType => do
      let left ← visit left
      let right ← visit right
      .ofExcept
        (Lowering.binary lowerer.mappings op method valueType left right)
  | .unary op operand valueType => do
      return Lowering.unary lowerer.mappings op valueType (← visit operand)
  | .constant value valueType => pure (.sql (.constant value valueType))
  | .parameter name valueType => pure (.sql (.parameter name valueType))
  | .construction _ members arguments =>
      lowerConstruction lowerer members (visitAll arguments)
  | .shaper entity => pure (.shaper entity)
  | .extension name children => do
      return .extension name (← Session.sequence (visitAll children))

/-- Lower an inner query that may be absent. -/
def visitInner : Option Query → Session (Option Lowered)
  | none => pure none
  | some query => do return some (← visit query)

/-- The sessions for several queries. -/
def visitAll : List Query → List (Session Lowered)
  | [] => []
  | query :: rest => visit query :: visitAll rest

end

theorem visitAll_eq_map (queries : List Query) :
    visitAll lowerer queries = queries.map (visit lowerer) := by
  induction queries with
  | nil => rfl
  | cons query rest inductionHypothesis => simp [visitAll, inductionHypothesis]

theorem performs_bindProperty (entity : EntityRef) (name : String) :
    (bindProperty lowerer entity name).Performs fun select =>
      lowerer.bindProperty select entity name where
  run select := by
    unfold bindProperty Lowerer.bindProperty
    cases lowerer.model.entity? entity.entityType with
    | none => rfl
    | some entityType =>
        dsimp only
        cases entityType.property? name with
        | none => rfl
        | some property =>
            dsimp only [Select.bind]
            cases select.columnRef entity.buffer property with
            | error error => rfl
            | ok column => rfl
  stable select columns :=
    (lowerer.agreesWith_noteColumns select columns).bound entity name

theorem performs_lowerMember (member : Member) (inner : Option Lowered) :
    (lowerMember lowerer member inner).Performs fun select =>
      lowerer.lowerMember select member inner := by
  cases inner with
  | none => exact Session.performs_pure _
  | some value =>
      cases value with
      | shaper entity => exact performs_bindProperty lowerer entity member.name
      | sql node =>
          dsimp only [lowerMember, Lowerer.lowerMember]
          by_cases nullableValue : member.isNullableValue = true
          · simp only [if_pos nullableValue]
            exact Session.performs_pure _
          · simp only [if_neg nullableValue]
            exact Session.performs_pure _
      | _ => exact Session.performs_pure _

variable {lowerer}

theorem performs_visitInner
    {inner : Option Query}
    (ofQuery : ∀ query, inner = some query →
      (visit lowerer query).Performs fun select => lowerer.visit select query) :
    (visitInner lowerer inner).Performs
      fun select => lowerer.visitInner select inner := by
  cases inner with
  | none => exact Session.performs_pure none
  | some query =>
      exact (ofQuery query rfl).bind
        fun value => Session.performs_pure (some value)

section Parts

variable
  {queries : List Query}
  (ofQueries : ∀ query, query ∈ queries →
    (visit lowerer query).Performs fun select => lowerer.visit select query)

include ofQueries

theorem performs_visitAll :
    (Session.sequence (visitAll lowerer queries)).Performs fun select =>
      Attempt.sequence (lowerer.visitAll select queries) := by
  simp only [visitAll_eq_map, Lowerer.visitAll_eq_map]
  exact Session.performs_sequence ofQueries

theorem performs_lowerRuleCall
    {target : Session (Option Lowered)}
    {targetAttempt : Select → Attempt (Option Lowered)}
    (method : Method)
    (ofTarget : target.Performs targetAttempt)
    (lowered : List Lowered) :
    (lowerRuleCall lowerer method target lowered
        (visitAll lowerer queries)).Performs
      fun select => lowerer.lowerRuleCall method (targetAttempt select) lowered
        (lowerer.visitAll select queries) := by
  refine ofTarget.bind fun target => ?_
  exact (performs_visitAll ofQueries).bind fun values => Session.performs_pure _

end Parts

theorem performs_lowerCall
    {target : Session (Option Lowered)}
    {targetAttempt : Select → Attempt (Option Lowered)}
    {arguments : List Query}
    (method : Method)
    (accessed : Option String)
    (ofTarget : target.Performs targetAttempt)
    (ofArguments : ∀ query, query ∈ arguments →
      (visit lowerer query).Performs fun select => lowerer.visit select query) :
    (lowerCall lowerer method accessed target
        (visitAll lowerer arguments)).Performs
      fun select => lowerer.lowerCall select method accessed
        (targetAttempt select) (lowerer.visitAll select arguments) := by
  cases accessed with
  | none => exact performs_lowerRuleCall ofArguments method ofTarget []
  | some name =>
      cases arguments with
      | nil => exact performs_lowerRuleCall ofArguments method ofTarget []
      | cons first rest =>
          obtain ⟨ofFirst, ofRest⟩ := List.forall_mem_cons.1 ofArguments
          refine ofFirst.bind fun value => ?_
          cases value with
          | shaper entity => exact performs_bindProperty lowerer entity name
          | _ => exact performs_lowerRuleCall ofRest method ofTarget [_]

theorem performs_lowerFields
    {arguments : List Query}
    (members : List String)
    (ofArguments : ∀ query, query ∈ arguments →
      (visit lowerer query).Performs fun select => lowerer.visit select query) :
    (lowerFields lowerer members (visitAll lowerer arguments)).Performs
      fun select =>
        lowerer.lowerFields members (lowerer.visitAll select arguments) := by
  induction members generalizing arguments with
  | nil => exact Session.performs_pure (some [])
  | cons member members inductionHypothesis =>
      cases arguments with
      | nil => exact Session.performs_pure (some [])
      | cons argument arguments =>
          obtain ⟨ofFirst, ofRest⟩ := List.forall_mem_cons.1 ofArguments
          refine ofFirst.bind fun value => ?_
          cases Lowering.field? lowerer.mappings value with
          | none => exact Session.performs_pure none
          | some field =>
              exact (inductionHypothesis ofRest).bind
                fun rest => Session.performs_pure _

theorem performs_lowerConstruction
    {arguments : List Query}
    (members : List String)
    (ofArguments : ∀ query, query ∈ arguments →
      (visit lowerer query).Performs fun select => lowerer.visit select query) :
    (lowerConstruction lowerer members (visitAll lowerer arguments)).Performs
      fun select =>
        lowerer.lowerConstruction members
          (lowerer.visitAll select arguments) := by
  have sessions : (visitAll lowerer arguments).length = arguments.length := by
    rw [visitAll_eq_map, List.length_map]
  have attempts : ∀ select,
      (lowerer.visitAll select arguments).length = arguments.length := by
    intro select
    rw [Lowerer.visitAll_eq_map, List.length_map]
  unfold lowerConstruction Lowerer.lowerConstruction
  simp only [sessions, attempts]
  cases members.isEmpty || members.length != arguments.length with
  | true => exact Session.performs_pure Lowered.unsupported
  | false =>
      refine (performs_lowerFields members ofArguments).bind fun fields => ?_
      cases fields with
      | none => exact Session.performs_pure Lowered.unsupported
      | some fields => exact Session.performs_pure (Lowered.projection fields)

variable (lowerer)

/-- Lowering a query in one context after the other does in any context what the
attempt does for the query there. -/
theorem performs_visit (query : Query) :
    (visit lowerer query).Performs
      fun select => lowerer.visit select query := by
  induction query using Query.induct with
  | access inner member innerHypothesis =>
      exact (performs_visitInner innerHypothesis).bind
        (performs_lowerMember lowerer member)
  | call target method arguments targetHypothesis argumentsHypothesis =>
      exact performs_lowerCall method _ (performs_visitInner targetHypothesis)
        argumentsHypothesis
  | binary op left right method valueType leftHypothesis rightHypothesis =>
      refine leftHypothesis.bind fun leftValue => rightHypothesis.bind
        fun rightValue => ?_
      exact Session.performs_ofExcept _
  | unary op operand valueType operandHypothesis =>
      exact operandHypothesis.bind fun value => Session.performs_pure _
  | constant value valueType => exact Session.performs_pure _
  | parameter name valueType => exact Session.performs_pure _
  | construction typeName members arguments argumentsHypothesis =>
      exact performs_lowerConstruction members argumentsHypothesis
  | shaper entity => exact Session.performs_pure _
  | extension name children childrenHypothesis =>
      exact (performs_visitAll childrenHypothesis).bind
        fun values => Session.performs_pure _

/-- A query that is not too deep is lowered so, and finished as a root. -/
theorem lower_eq_visit
    {lowerer : Lowerer}
    {query : Query}
    (select : Select)
    (requireCondition : Bool)
    (shallow : query.depth ≤ lowerer.settings.maxDepth.toNat) :
    lowerer.lower select query requireCondition =
      ((visit lowerer query select).1.map (lowerer.finish requireCondition),
        (visit lowerer query select).2) := by
  rw [lower_of_shallow _ _ _ shallow, (performs_visit lowerer query).run]

end Threaded
end Lowerer
end QueryLowering
