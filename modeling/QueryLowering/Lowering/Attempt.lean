import QueryLowering.Lowering.Error

/-!
# Attempts

An attempt to lower a query gives a value or an error, and the columns that were
bound on the way. The columns bound before an error are kept. Attempts are plain
values: whatever an attempt for one part of a query gives, it gives beside any
other part.
-/

namespace QueryLowering

/-- A value or an error, and the columns bound on the way, in order. -/
structure Attempt (α : Type) where
  columns : List Sql.ColumnRef
  result : Except LoweringError α

namespace Attempt

/-- The attempt that gives a value and binds nothing. -/
protected def pure (value : α) : Attempt α := ⟨[], .ok value⟩

/-- The attempt that fails and binds nothing. -/
def fail (error : LoweringError) : Attempt α := ⟨[], .error error⟩

/-- The attempt that has a result and binds nothing. -/
def ofExcept (result : Except LoweringError α) : Attempt α := ⟨[], result⟩

/-- Go on with the value of an attempt. An error ends the attempt. -/
protected def bind (attempt : Attempt α) (next : α → Attempt β) : Attempt β :=
  match attempt.result with
  | .ok value => ⟨attempt.columns ++ (next value).columns, (next value).result⟩
  | .error error => ⟨attempt.columns, .error error⟩

instance : Monad Attempt where
  pure := Attempt.pure
  bind := Attempt.bind

@[simp] theorem columns_pure (value : α) :
    (pure value : Attempt α).columns = [] := rfl

@[simp] theorem result_pure (value : α) :
    (pure value : Attempt α).result = .ok value := rfl

@[simp] theorem columns_fail (error : LoweringError) :
    (fail error : Attempt α).columns = [] := rfl

@[simp] theorem result_fail (error : LoweringError) :
    (fail error : Attempt α).result = .error error := rfl

@[simp] theorem columns_ofExcept (result : Except LoweringError α) :
    (ofExcept result).columns = [] := rfl

@[simp] theorem result_ofExcept (result : Except LoweringError α) :
    (ofExcept result).result = result := rfl

theorem bind_of_ok
    {attempt : Attempt α}
    {value : α}
    (next : α → Attempt β)
    (succeeds : attempt.result = .ok value) :
    attempt >>= next =
      ⟨attempt.columns ++ (next value).columns, (next value).result⟩ := by
  show Attempt.bind attempt next = _
  simp [Attempt.bind, succeeds]

theorem bind_of_error
    {attempt : Attempt α}
    {error : LoweringError}
    (next : α → Attempt β)
    (fails : attempt.result = .error error) :
    attempt >>= next = ⟨attempt.columns, .error error⟩ := by
  show Attempt.bind attempt next = _
  simp [Attempt.bind, fails]

/-- Make attempts one after the other, and collect their values. -/
def sequence : List (Attempt α) → Attempt (List α)
  | [] => pure []
  | attempt :: rest => do
      let value ← attempt
      let values ← sequence rest
      return value :: values

@[simp] theorem sequence_nil : sequence ([] : List (Attempt α)) = pure [] := rfl

end Attempt
end QueryLowering
