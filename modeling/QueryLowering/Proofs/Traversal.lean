/-!
# Steps that can fail

A sequence of steps succeeds exactly when every step does, each on what the
steps before it gave, and it fails with the error of its first failing step. The
same holds of a step for each member of a list. A change of the value or of the
error keeps which of the two there is.
-/

namespace QueryLowering

variable {α β ε ε' : Type}

theorem map_eq_ok_iff (result : Except ε α) (change : α → β) (value : β) :
    result.map change = .ok value ↔
      ∃ first, result = .ok first ∧ change first = value := by
  cases result <;> simp [Except.map]

theorem map_eq_error_iff (result : Except ε α) (change : α → β) (error : ε) :
    result.map change = .error error ↔ result = .error error := by
  cases result <;> simp [Except.map]

theorem mapError_eq_ok_iff (result : Except ε α) (change : ε → ε') (value : α) :
    result.mapError change = .ok value ↔ result = .ok value := by
  cases result with
  | ok first =>
      change Except.ok first = Except.ok value ↔
        Except.ok first = Except.ok value
      rw [Except.ok.injEq, Except.ok.injEq]
  | error => exact ⟨nofun, nofun⟩

theorem mapError_eq_error_iff
    (result : Except ε α)
    (change : ε → ε')
    (error : ε') :
    result.mapError change = .error error ↔
      ∃ cause, result = .error cause ∧ change cause = error := by
  cases result with
  | ok => exact ⟨nofun, fun ⟨_, isError, _⟩ => nomatch isError⟩
  | error cause =>
      change Except.error (change cause) = Except.error error ↔ _
      simp

theorem bind_eq_ok_iff
    (result : Except ε α)
    (next : α → Except ε β)
    (value : β) :
    (result >>= next) = .ok value ↔
      ∃ first, result = .ok first ∧ next first = .ok value := by
  cases result <;> simp [bind, Except.bind]

theorem bind_eq_error_iff
    (result : Except ε α)
    (next : α → Except ε β)
    (error : ε) :
    (result >>= next) = .error error ↔
      result = .error error ∨
        ∃ first, result = .ok first ∧ next first = .error error := by
  cases result <;> simp [bind, Except.bind]

theorem andThen_eq_ok_iff
    (check : Except ε Unit)
    (next : Except ε β)
    (value : β) :
    (check >>= fun _ => next) = .ok value ↔
      check = .ok () ∧ next = .ok value := by
  cases check <;> simp [bind, Except.bind]

theorem andThen_eq_error_iff
    (check : Except ε Unit)
    (next : Except ε β)
    (error : ε) :
    (check >>= fun _ => next) = .error error ↔
      check = .error error ∨ check = .ok () ∧ next = .error error := by
  cases check <;> simp [bind, Except.bind]

/-- A fold fails where its first failing step does. -/
theorem foldlM_eq_error_iff
    (step : β → α → Except ε β)
    (state : β)
    (inputs : List α)
    (error : ε) :
    inputs.foldlM step state = .error error ↔
      ∃ before input after reached, inputs = before ++ input :: after ∧
        before.foldlM step state = .ok reached ∧
        step reached input = .error error := by
  induction inputs generalizing state with
  | nil =>
      constructor
      · rintro ⟨⟩
      · rintro ⟨before, input, after, _, split, _⟩
        simp at split
  | cons first rest inductionHypothesis =>
      rw [List.foldlM_cons, bind_eq_error_iff]
      constructor
      · rintro (fails | ⟨next, stepped, failsLater⟩)
        · exact ⟨[], first, rest, state, rfl, rfl, fails⟩
        · obtain ⟨before, input, after, reached, rfl, isReached, fails⟩ :=
            (inductionHypothesis next).1 failsLater
          refine ⟨first :: before, input, after, reached, rfl, ?_, fails⟩
          rw [List.foldlM_cons]
          exact (bind_eq_ok_iff _ _ _).2 ⟨next, stepped, isReached⟩
      · rintro ⟨before, input, after, reached, split, isReached, fails⟩
        cases before with
        | nil =>
            obtain ⟨rfl, rfl⟩ := List.cons.inj split
            obtain rfl := Except.ok.inj isReached
            exact .inl fails
        | cons earlier before =>
            obtain ⟨rfl, rfl⟩ := List.cons.inj split
            rw [List.foldlM_cons] at isReached
            obtain ⟨next, stepped, isReached⟩ :=
              (bind_eq_ok_iff _ _ _).1 isReached
            exact .inr ⟨next, stepped,
              (inductionHypothesis next).2
                ⟨before, input, after, reached, rfl, isReached, fails⟩⟩

/-- A check of every input is a fold that keeps nothing. -/
theorem forM_eq_foldlM (check : α → Except ε Unit) (inputs : List α) :
    inputs.forM check = inputs.foldlM (fun _ input => check input) () := by
  induction inputs with
  | nil => rfl
  | cons first rest inductionHypothesis =>
      exact congrArg (check first >>= ·) (funext fun _ => inductionHypothesis)

theorem forM_eq_ok_iff (check : α → Except ε Unit) (inputs : List α) :
    inputs.forM check = .ok () ↔
      ∀ input, input ∈ inputs → check input = .ok () := by
  induction inputs with
  | nil => exact iff_of_true rfl (List.forall_mem_nil _)
  | cons first rest inductionHypothesis =>
      rw [List.forall_mem_cons, ← inductionHypothesis]
      exact andThen_eq_ok_iff (check first) (rest.forM check) ()

/-- A check of several inputs fails where the first of them does. -/
theorem forM_eq_error_iff
    (check : α → Except ε Unit)
    (inputs : List α)
    (error : ε) :
    inputs.forM check = .error error ↔
      ∃ before input after, inputs = before ++ input :: after ∧
        (∀ earlier, earlier ∈ before → check earlier = .ok ()) ∧
        check input = .error error := by
  simp only [← forM_eq_ok_iff, forM_eq_foldlM, foldlM_eq_error_iff]
  exact exists_congr fun _ => exists_congr fun _ => exists_congr fun _ =>
    ⟨fun ⟨_, parts⟩ => parts, fun parts => ⟨(), parts⟩⟩

end QueryLowering
