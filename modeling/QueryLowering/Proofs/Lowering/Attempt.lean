import Mathlib.Data.List.Forall2
import QueryLowering.Lowerer

/-!
# What attempts give

An attempt that goes on with the value of another gives a value exactly when
both do. Attempts that are made one after the other give all their values in
order. The fields of a constructed object are lowered up to the first that is
not complete, and later arguments do not matter.
-/

namespace QueryLowering
namespace Attempt

/-- What goes on with the value of an attempt gives a value when both do. -/
theorem result_bind_eq_ok_iff
    (attempt : Attempt α)
    (next : α → Attempt β)
    (value : β) :
    (attempt >>= next).result = .ok value ↔
      ∃ first, attempt.result = .ok first ∧
        (next first).result = .ok value := by
  cases known : attempt.result with
  | ok first => simp [bind_of_ok next known]
  | error error => simp [bind_of_error next known]

/-- Attempts yield the given values, one each and in order. -/
def Yield (attempts : List (Attempt α)) (values : List α) : Prop :=
  List.Forall₂ (fun attempt value => attempt.result = .ok value) attempts values

@[simp] theorem yield_nil_iff (values : List α) :
    Yield [] values ↔ values = [] := by
  simp [Yield]

theorem yield_cons_iff
    (attempt : Attempt α)
    (rest : List (Attempt α))
    (values : List α) :
    Yield (attempt :: rest) values ↔
      ∃ value others, attempt.result = .ok value ∧ Yield rest others ∧
        values = value :: others := by
  rw [Yield, List.forall₂_cons_left_iff]
  rfl

/-- Attempts for the members of a list yield as many values, each that of the
attempt for the member in its place. -/
theorem yield_map_iff
    (make : α → Attempt β)
    (inputs : List α)
    (values : List β) :
    Yield (inputs.map make) values ↔
      inputs.length = values.length ∧
        ∀ pair, pair ∈ inputs.zip values →
          (make pair.1).result = .ok pair.2 := by
  rw [Yield, List.forall₂_map_left_iff, List.forall₂_iff_zip]
  simp

/-- Where the values are split, so are the attempts. -/
theorem Yield.split
    {attempts : List (Attempt α)}
    {before after : List α}
    {value : α}
    (yielded : Yield attempts (before ++ value :: after)) :
    ∃ earlier attempt later, attempts = earlier ++ attempt :: later ∧
      Yield earlier before ∧
      attempt.result = .ok value := by
  induction before generalizing attempts with
  | nil =>
      cases yielded with
      | cons given _ => exact ⟨[], _, _, rfl, .nil, given⟩
  | cons first rest inductionHypothesis =>
      cases yielded with
      | cons given others =>
          obtain ⟨earlier, attempt, later, rfl, earlierYielded, attemptGiven⟩ :=
            inductionHypothesis others
          exact ⟨_ :: earlier, attempt, later, rfl, .cons given earlierYielded,
            attemptGiven⟩

theorem result_sequence_eq_ok_iff
    (attempts : List (Attempt α))
    (values : List α) :
    (sequence attempts).result = .ok values ↔ Yield attempts values := by
  induction attempts generalizing values with
  | nil =>
      rw [sequence_nil, result_pure, Except.ok.injEq, yield_nil_iff]
      exact eq_comm
  | cons attempt rest inductionHypothesis =>
      simp only [sequence, result_bind_eq_ok_iff, inductionHypothesis,
        result_pure, Except.ok.injEq, yield_cons_iff]
      constructor
      · rintro ⟨value, first, others, remaining, rfl⟩
        exact ⟨value, others, first, remaining, rfl⟩
      · rintro ⟨value, others, first, remaining, rfl⟩
        exact ⟨value, first, others, remaining, rfl⟩

end Attempt

namespace Lowering

/-- A value becomes a field when it is complete, finished as at a root. -/
theorem field?_eq (lowerer : Lowerer) (value : Lowered) :
    field? lowerer.mappings value =
      if value.isComplete then some (lowerer.finish false value) else none := by
  cases value <;> simp [field?, Lowered.isComplete, Lowerer.finish]

end Lowering

namespace Lowerer

variable (lowerer : Lowerer)

/-- The fields of a constructed object whose values are all complete. -/
def fields
    (members : List String)
    (values : List Lowered) :
    List (String × Lowered) :=
  members.zip (values.map (lowerer.finish false))

/-- The first field decides whether the others are lowered. -/
theorem result_lowerFields_cons_eq_ok_iff
    (member : String)
    (members : List String)
    (argument : Attempt Lowered)
    (arguments : List (Attempt Lowered))
    (outcome : Option (List (String × Lowered))) :
    (lowerer.lowerFields (member :: members) (argument :: arguments)).result =
        .ok outcome ↔
      ∃ value, argument.result = .ok value ∧
        (value.isComplete = false ∧ outcome = none ∨
          value.isComplete = true ∧
            ∃ rest, (lowerer.lowerFields members arguments).result = .ok rest ∧
              outcome = rest.map fun fields =>
                (member, lowerer.finish false value) :: fields) := by
  rw [lowerFields, Attempt.result_bind_eq_ok_iff]
  refine exists_congr fun value => and_congr_right fun _ => ?_
  rw [Lowering.field?_eq]
  cases complete : value.isComplete with
  | false => simp [eq_comm]
  | true =>
      simp only [if_true, Attempt.result_bind_eq_ok_iff, Attempt.result_pure,
        Except.ok.injEq, Bool.true_eq_false, false_and, true_and, false_or]
      exact exists_congr fun rest => and_congr_right fun _ => eq_comm

/-- The fields are lowered all, each to a complete value, or up to the first
value that is not complete. -/
theorem result_lowerFields_eq_ok_iff
    (members : List String)
    (arguments : List (Attempt Lowered))
    (sameLength : members.length = arguments.length)
    (outcome : Option (List (String × Lowered))) :
    (lowerer.lowerFields members arguments).result = .ok outcome ↔
      (∃ values, Attempt.Yield arguments values ∧
        (∀ value, value ∈ values → value.isComplete = true) ∧
        outcome = some (lowerer.fields members values)) ∨
      (∃ before argument after values value,
        arguments = before ++ argument :: after ∧
        Attempt.Yield before values ∧
        (∀ value, value ∈ values → value.isComplete = true) ∧
        argument.result = .ok value ∧ value.isComplete = false ∧
        outcome = none) := by
  induction members generalizing arguments outcome with
  | nil =>
      obtain rfl : arguments = [] :=
        List.length_eq_zero_iff.1 (by simpa using sameLength.symm)
      constructor
      · rintro ⟨⟩
        exact .inl ⟨[], by simp, by simp, rfl⟩
      · rintro (⟨values, _, _, rfl⟩ | ⟨before, argument, after, _, _, split, _⟩)
        · rfl
        · simp at split
  | cons member members inductionHypothesis =>
      cases arguments with
      | nil => simp at sameLength
      | cons argument arguments =>
          rw [result_lowerFields_cons_eq_ok_iff]
          simp only [inductionHypothesis arguments (by simpa using sameLength)]
          constructor
          · rintro ⟨value, first,
              ⟨incomplete, rfl⟩ | ⟨complete, rest, lowered, rfl⟩⟩
            · exact .inr ⟨[], argument, arguments, [], value, rfl, by simp,
                by simp, first, incomplete, rfl⟩
            · rcases lowered with
                ⟨values, yielded, allComplete, rfl⟩ |
                ⟨before, next, after, values, stop, rfl, yielded, allComplete,
                  stopped, incomplete, rfl⟩
              · refine .inl ⟨value :: values, ?_,
                  by simpa using ⟨complete, allComplete⟩, rfl⟩
                exact (Attempt.yield_cons_iff _ _ _).2
                  ⟨value, values, first, yielded, rfl⟩
              · refine .inr ⟨argument :: before, next, after, value :: values,
                  stop, rfl, ?_, by simpa using ⟨complete, allComplete⟩,
                  stopped, incomplete, rfl⟩
                exact (Attempt.yield_cons_iff _ _ _).2
                  ⟨value, values, first, yielded, rfl⟩
          · rintro (⟨values, yielded, allComplete, rfl⟩ |
              ⟨before, next, after, values, stop, split, yielded, allComplete,
                stopped, incomplete, rfl⟩)
            · obtain ⟨value, others, first, remaining, rfl⟩ :=
                (Attempt.yield_cons_iff _ _ _).1 yielded
              obtain ⟨complete, othersComplete⟩ :=
                List.forall_mem_cons.1 allComplete
              exact ⟨value, first,
                .inr ⟨complete, some (lowerer.fields members others), .inl
                  ⟨others, remaining, othersComplete, rfl⟩, rfl⟩⟩
            · cases before with
              | nil =>
                  obtain ⟨rfl, rfl⟩ := List.cons.inj split
                  exact ⟨stop, stopped, .inl ⟨incomplete, rfl⟩⟩
              | cons earlier before =>
                  obtain ⟨rfl, rfl⟩ := List.cons.inj split
                  obtain ⟨value, others, first, remaining, rfl⟩ :=
                    (Attempt.yield_cons_iff _ _ _).1 yielded
                  obtain ⟨complete, othersComplete⟩ :=
                    List.forall_mem_cons.1 allComplete
                  exact ⟨value, first, .inr ⟨complete, none,
                    .inr ⟨before, next, after, others, stop, rfl, remaining,
                      othersComplete, stopped, incomplete, rfl⟩, rfl⟩⟩

end Lowerer
end QueryLowering
