import QueryLowering.Proofs.Lowering.Agreement
import QueryLowering.Proofs.Select.Reachable

/-!
# Several queries against one context

A context carries no more from one query to the next than the columns that were
noted, and these do not matter to what a query becomes. So each query gives in
every order what it gives alone, and what the context has noted in the end
differs in order only.
-/

namespace QueryLowering
namespace Lowerer

variable (lowerer : Lowerer) (select : Select)

/-- The columns that are bound when a query is lowered, up to the error if there
is one. -/
def boundColumns (query : Query) : List Sql.ColumnRef :=
  if lowerer.settings.maxDepth.toNat < query.depth then []
  else (lowerer.visit select query).columns

/-- Lowering notes the columns that it binds, and changes the context in no
other way. -/
theorem lower_context (query : Query) (requireCondition : Bool) :
    (lowerer.lower select query requireCondition).2 =
      select.noteColumns (lowerer.boundColumns select query) := by
  unfold lower boundColumns
  split
  · rfl
  · rfl

/-- Properties are bound alike, whichever columns have been noted. -/
theorem agreesWith_noteColumns (columns : List Sql.ColumnRef) :
    lowerer.AgreesWith lowerer (select.noteColumns columns) select where
  mappings := rfl
  bound _ _ := by
    rw [Select.noteColumns_eq]
    rfl
  members _ _ := rfl
  calls _ := rfl

/-- Columns noted before make no difference to the attempt at a query. -/
theorem visit_noteColumns (columns : List Sql.ColumnRef) (query : Query) :
    lowerer.visit (select.noteColumns columns) query =
      lowerer.visit select query :=
  (lowerer.agreesWith_noteColumns select columns).visit_eq
    (Query.Respelled.refl query)

theorem boundColumns_noteColumns
    (columns : List Sql.ColumnRef)
    (query : Query) :
    lowerer.boundColumns (select.noteColumns columns) query =
      lowerer.boundColumns select query := by
  rw [boundColumns, boundColumns, visit_noteColumns]

/-- Columns noted before make no difference to the result or error of a
query. -/
theorem lower_noteColumns
    (columns : List Sql.ColumnRef)
    (query : Query)
    (requireCondition : Bool) :
    (lowerer.lower (select.noteColumns columns) query requireCondition).1 =
      (lowerer.lower select query requireCondition).1 :=
  (lowerer.agreesWith_noteColumns select columns).result_lower_eq rfl
    (Query.Respelled.refl query) requireCondition

/-- After a query, another gives what it gives alone, and the context has noted
the columns of both. -/
theorem lower_after
    (first second : Query)
    (conditionForFirst conditionForSecond : Bool) :
    lowerer.lower (lowerer.lower select first conditionForFirst).2 second
        conditionForSecond =
      ((lowerer.lower select second conditionForSecond).1,
        (select.noteColumns (lowerer.boundColumns select first)).noteColumns
          (lowerer.boundColumns select second)) := by
  rw [lower_context]
  refine Prod.ext ?_ ?_
  · exact lowerer.lower_noteColumns select _ second conditionForSecond
  · rw [lower_context, boundColumns_noteColumns]

/-- Two queries lowered against one context, in either order, give what each of
them gives alone, be it a result or an error. In both orders no column is noted
twice, those noted before keep their places, the same columns are noted in the
end, and the tables stay as they are. -/
theorem lower_in_either_order
    (lowerer : Lowerer)
    {select : Select}
    (reachable : select.Reachable)
    (first second : Query)
    (conditionForFirst conditionForSecond : Bool) :
    let firstAlone := lowerer.lower select first conditionForFirst
    let secondAlone := lowerer.lower select second conditionForSecond
    let secondAfterFirst := lowerer.lower firstAlone.2 second conditionForSecond
    let firstAfterSecond := lowerer.lower secondAlone.2 first conditionForFirst
    secondAfterFirst.1 = secondAlone.1 ∧
      firstAfterSecond.1 = firstAlone.1 ∧
      secondAfterFirst.2.columns.Nodup ∧
      firstAfterSecond.2.columns.Nodup ∧
      select.columns <+: secondAfterFirst.2.columns ∧
      select.columns <+: firstAfterSecond.2.columns ∧
      (∀ column, column ∈ secondAfterFirst.2.columns ↔
        column ∈ firstAfterSecond.2.columns) ∧
      (∀ context,
        context ∈ [firstAlone.2, secondAlone.2, secondAfterFirst.2,
          firstAfterSecond.2] →
        context.tables = select.tables) := by
  intro firstAlone secondAlone secondAfterFirst firstAfterSecond
  let ofFirst := lowerer.boundColumns select first
  let ofSecond := lowerer.boundColumns select second
  have afterFirst : secondAfterFirst =
      (secondAlone.1, (select.noteColumns ofFirst).noteColumns ofSecond) :=
    lowerer.lower_after select first second conditionForFirst conditionForSecond
  have afterSecond : firstAfterSecond =
      (firstAlone.1, (select.noteColumns ofSecond).noteColumns ofFirst) :=
    lowerer.lower_after select second first conditionForSecond conditionForFirst
  have firstNoted : firstAlone.2 = select.noteColumns ofFirst :=
    lowerer.lower_context select first conditionForFirst
  have secondNoted : secondAlone.2 = select.noteColumns ofSecond :=
    lowerer.lower_context select second conditionForSecond
  have reachedAfterFirst : secondAfterFirst.2.Reachable :=
    .lower _ _ _ (.lower _ _ _ reachable)
  have reachedAfterSecond : firstAfterSecond.2.Reachable :=
    .lower _ _ _ (.lower _ _ _ reachable)
  refine ⟨?_, ?_, reachedAfterFirst.nodup, reachedAfterSecond.nodup, ?_, ?_, ?_,
    ?_⟩
  · rw [afterFirst]
  · rw [afterSecond]
  · rw [afterFirst]
    exact (select.prefix_noteColumns ofFirst).trans
      (Select.prefix_noteColumns _ ofSecond)
  · rw [afterSecond]
    exact (select.prefix_noteColumns ofSecond).trans
      (Select.prefix_noteColumns _ ofFirst)
  · intro column
    rw [afterFirst, afterSecond]
    simp only [Select.mem_noteColumns_iff]
    exact or_right_comm
  · simp [afterFirst, afterSecond, firstNoted, secondNoted]

/-- One query binds a column and then fails, the other binds that column after
one of its own and gives a row. Each does the same after the other. -/
theorem lower_in_either_order_after_failure :
    let name : Property := ⟨"Name", "name", .string, none⟩
    let city : Property := ⟨"City", "city", .string, none⟩
    let customer : EntityType := ⟨"Customer", "customers", [name, city]⟩
    let select : Select :=
      ⟨Dialect.ansi.mappings, [⟨"c", "customers", "Customer", ⟨0⟩⟩], []⟩
    let lowerer := withBuiltInRules ⟨[customer]⟩ Dialect.ansi.mappings .standard
    let property := fun name : String =>
      Query.access (some (.shaper ⟨"Customer", ⟨0⟩⟩)) ⟨.object, name, .string⟩
    let stored := fun column : String => Lowered.sql
      (.leaf ⟨.string, Dialect.ansi.mapping? .string, false⟩
        (.column ⟨"c", column⟩))
    let failing : Query := .extension "row" [property "Name", property "Phone"]
    let working : Query := .extension "row" [property "City", property "Name"]
    let row : Lowered := .extension "row" [stored "city", stored "name"]
    let afterFailing := { select with columns := [⟨"c", "name"⟩] }
    let afterWorking :=
      { select with columns := [⟨"c", "city"⟩, ⟨"c", "name"⟩] }
    select.Reachable ∧
      lowerer.lower select failing true =
        (.error (.propertyNotFound "Customer" "Phone"), afterFailing) ∧
      lowerer.lower select working false = (.ok row, afterWorking) ∧
      (lowerer.lower afterFailing working false).1 = .ok row ∧
      (lowerer.lower afterWorking failing true).1 =
        .error (.propertyNotFound "Customer" "Phone") := by
  intro name city customer select lowerer property stored failing working row
    afterFailing afterWorking
  have baseAlias : Select.baseAlias "customers" = "c" := by decide
  have added :
      ((Select.empty Dialect.ansi.mappings).addTable customer).1 = select := by
    simp [Select.addTable, Select.freshAlias, Select.usesAlias, Select.empty,
      customer, select, baseAlias]
  have reachable : select.Reachable := added ▸ .addTable customer (.empty _)
  have failed : lowerer.lower select failing true =
      (.error (.propertyNotFound "Customer" "Phone"), afterFailing) := by cbv
  have worked : lowerer.lower select working false =
      (.ok row, afterWorking) := by
    cbv
  obtain ⟨workedLater, failedLater, _⟩ :=
    lower_in_either_order lowerer reachable failing working true false
  rw [failed, worked] at workedLater failedLater
  exact ⟨reachable, failed, worked, workedLater, failedLater⟩

end Lowerer
end QueryLowering
