import Mathlib.Data.Set.List
import QueryLowering.Proofs.Lowering.Invariant
import QueryLowering.Proofs.Lowering.Threaded

/-!
# Method calls part by part

The rules for calls see the target and the arguments of a call as each of these
lowers alone, and every one in its place. A call of the property accessor lowers
its first argument before the target, so that the parts come upon other columns
than in any other call; nothing but the order of the columns shows that.
-/

namespace QueryLowering

/-- Attempts yield values if they have them as results, one each. -/
theorem Attempt.yield_iff_map_eq
    (attempts : List (Attempt α))
    (values : List α) :
    Yield attempts values ↔ attempts.map result = values.map .ok := by
  rw [Yield, ← List.forall₂_eq_eq_eq, List.forall₂_map_left_iff,
    List.forall₂_map_right_iff]

namespace Lowerer

/-- A method with its arguments reads a property of an entity by a constant
name. -/
inductive IsPropertyAccess (method : Method) : (arguments : List Query) → Prop
  | entity (entity : EntityRef) (name : String) (valueType : ValueType) :
      method.kind = .propertyAccessor →
      IsPropertyAccess method
        [.shaper entity, .constant (.string name) valueType]

variable {lowerer : Lowerer} {select : Select}

/-- Unless a property is read, the first argument of a property accessor gives
no entity. -/
theorem entity?_head_eq_none
    {method : Method}
    {arguments : List Query}
    {values : List Lowered}
    (noAccess : ¬IsPropertyAccess method arguments)
    (yielded : Attempt.Yield (lowerer.visitAll select arguments) values)
    (accessed : (accessedProperty? method arguments).isSome = true) :
    values.head?.bind Lowered.entity? = none := by
  unfold accessedProperty? at accessed
  split at accessed
  · next first name valueType accessor =>
      obtain ⟨value, others, given, _, rfl⟩ :=
        (Attempt.yield_cons_iff _ _ _).1 yielded
      refine (Lowered.entity?_eq_none_iff value).2 ?_
      rintro entity rfl
      -- an entity comes from a shaper alone, and a shaper here would be read by
      -- the accessor
      obtain rfl :=
        ((lowerer.result_visit_eq_ok_iff select _ _).1 given).eq_shaper
      exact noAccess (.entity entity name valueType accessor)
  · cases accessed

theorem result_visitInner_iff_map_eq
    (inner : Option Query)
    (value : Option Lowered) :
    (lowerer.visitInner select inner).result = .ok value ↔
      inner.map (fun query => (lowerer.visit select query).result) =
        value.map .ok := by
  cases inner with
  | none => cases value <;> simp [visitInner]
  | some query =>
      rw [visitInner, Attempt.result_bind_eq_ok_iff]
      cases value <;> simp

/-- Where the target and the arguments give values, a call that reads no
property is decided by the rules from these values. -/
theorem result_visit_call
    {target : Option Query}
    {method : Method}
    {arguments : List Query}
    {targetValue : Option Lowered}
    {values : List Lowered}
    (noAccess : ¬IsPropertyAccess method arguments)
    (targetGiven :
      target.map (fun query => (lowerer.visit select query).result) =
        targetValue.map .ok)
    (argumentsGiven :
      arguments.map (fun query => (lowerer.visit select query).result) =
        values.map .ok) :
    (lowerer.visit select (.call target method arguments)).result =
      .ok (lowerer.applyRules lowerer.callRules
        ⟨targetValue, method, values⟩) := by
  have yielded : Attempt.Yield (lowerer.visitAll select arguments) values := by
    rwa [Attempt.yield_iff_map_eq, visitAll_eq_map, List.map_map]
  rw [visit, result_lowerCall_eq_ok_iff]
  exact .inr ⟨targetValue, values,
    (result_visitInner_iff_map_eq _ _).2 targetGiven, yielded,
    entity?_head_eq_none noAccess yielded, rfl⟩

/-- The first rule that does not decline decides. -/
theorem applyRules_of_match
    {before after : List (Rule α)}
    {rule : Rule α}
    {use : α}
    {node : Sql.Node}
    (declined : ∀ earlier, earlier ∈ before → earlier use = none)
    (matched : rule use = some node) :
    lowerer.applyRules (before ++ rule :: after) use =
      .sql (node.infer lowerer.mappings) := by
  have first : Rule.firstMatch? (before ++ rule :: after) use = some node :=
    List.findSome?_eq_some_iff.2 ⟨before, rule, after, rfl, matched, declined⟩
  rw [applyRules, first]

/-- Without a rule that does not decline, there is no result. -/
theorem applyRules_of_declined
    {rules : List (Rule α)}
    {use : α}
    (declined : ∀ rule, rule ∈ rules → rule use = none) :
    lowerer.applyRules rules use = .unsupported := by
  have noMatch : Rule.firstMatch? rules use = none :=
    List.findSome?_eq_none_iff.2 declined
  rw [applyRules, noMatch]

/-- If the target and the arguments of a call each lower alone in the context
before the call, and the call reads no property of an entity, then in that
context the parts give the same one after the other: the rules see what the
target gives alone, the method as it is, and for each argument in its place what
it gives alone, with or without an SQL equivalent. The first rule that does not
decline gives SQL, which receives its mappings; if all decline, the call has no
SQL equivalent. Lowering the call finishes just that, unless the call is too
deep. -/
theorem lower_call_in_place
    (lowerer : Lowerer)
    (select : Select)
    (target : Option Query)
    (method : Method)
    (arguments : List Query)
    (noAccess : ¬IsPropertyAccess method arguments)
    (targetLowers : ∀ query, target = some query →
      ∃ value, (Threaded.visit lowerer query select).1 = .ok value)
    (argumentsLower : ∀ argument, argument ∈ arguments →
      ∃ value, (Threaded.visit lowerer argument select).1 = .ok value) :
    let call := Query.call target method arguments
    let result := (Threaded.visit lowerer call select).1
    ∃ targetValue values,
      target.map (fun query => (Threaded.visit lowerer query select).1) =
        targetValue.map Except.ok ∧
      arguments.map
          (fun argument => (Threaded.visit lowerer argument select).1) =
        values.map Except.ok ∧
      (∀ before rule after node, lowerer.callRules = before ++ rule :: after →
        (∀ earlier, earlier ∈ before →
          earlier ⟨targetValue, method, values⟩ = none) →
        rule ⟨targetValue, method, values⟩ = some node →
        result = .ok (.sql (node.infer lowerer.mappings))) ∧
      ((∀ rule, rule ∈ lowerer.callRules →
        rule ⟨targetValue, method, values⟩ = none) →
        result = .ok .unsupported) ∧
      ∀ requireCondition, call.depth ≤ lowerer.settings.maxDepth.toNat →
        lowerer.lower select call requireCondition =
          (result.map (lowerer.finish requireCondition),
            (Threaded.visit lowerer call select).2) := by
  intro call result
  have sameResult : ∀ query, (Threaded.visit lowerer query select).1 =
      (lowerer.visit select query).result :=
    fun query =>
      congrArg Prod.fst ((Threaded.performs_visit lowerer query).run select)
  simp only [sameResult] at targetLowers argumentsLower ⊢
  obtain ⟨targetValue, targetGiven⟩ : ∃ targetValue,
      target.map (fun query => (lowerer.visit select query).result) =
        Option.map Except.ok targetValue := by
    cases target with
    | none => exact ⟨none, rfl⟩
    | some query =>
        obtain ⟨value, given⟩ := targetLowers query rfl
        exact ⟨some value, congrArg some given⟩
  obtain ⟨values, argumentsGiven⟩ :
      arguments.map (fun query => (lowerer.visit select query).result) ∈
        Set.range (List.map Except.ok) := by
    rw [Set.range_list_map]
    refine List.forall_mem_map.2 fun argument member => ?_
    obtain ⟨value, given⟩ := argumentsLower argument member
    exact ⟨value, given.symm⟩
  have ruled := result_visit_call noAccess targetGiven argumentsGiven.symm
  refine ⟨targetValue, values, targetGiven, argumentsGiven.symm, ?_, ?_, ?_⟩
  · intro before rule after node rules declined matched
    rw [rules, applyRules_of_match declined matched] at ruled
    exact (sameResult call).trans ruled
  · intro declined
    rw [applyRules_of_declined declined] at ruled
    exact (sameResult call).trans ruled
  · exact fun requireCondition =>
      Threaded.lower_eq_visit select requireCondition

/-- The first argument of a property accessor has no SQL equivalent. The rule
finds it in its place, before the name and beside the column of the target. -/
theorem lower_call_in_place_accessor :
    let property : Property := ⟨"Nick", "nick", .orNull .string, none⟩
    let model : EntityModel := ⟨[⟨"Customer", "customers", [property]⟩]⟩
    let source := Dialect.ansi.mappings
    let select : Select := ⟨source, [⟨"c", "customers", "Customer", ⟨0⟩⟩], []⟩
    let ifUnknown : Rule CallUse := fun use =>
      match use.targetSql?, use.arguments with
      | some column, [.unsupported, .sql _] =>
          some (.apply ⟨.boolean, none, true⟩ (.nullTest true) column)
      | _, _ => none
    let lowerer : Lowerer :=
      ⟨model, source, [], [fun _ => none, ifUnknown], .standard⟩
    let target := Query.access (some (.shaper ⟨"Customer", ⟨0⟩⟩))
      ⟨.object, "Nick", .orNull .string⟩
    let unknown := Query.access none ⟨.object, "Unknown", .string⟩
    let name := Query.constant (.string "Name") .string
    let method : Method := ⟨.propertyAccessor, .object, "property", .boolean⟩
    let column :=
      Sql.Node.leaf ⟨.orNull .string, Dialect.ansi.mapping? .string, false⟩
        (.column ⟨"c", "nick"⟩)
    (Threaded.visit lowerer (.call (some target) method [unknown, name])
        select).1 =
      .ok (.sql (.apply ⟨.boolean, some source.canonicalBoolean, true⟩
        (.nullTest true) column)) := by
  intro property model source select ifUnknown lowerer target unknown name
    method column
  have noAccess : ¬IsPropertyAccess method [unknown, name] := by
    dsimp only [unknown]
    rintro ⟨⟩
  have targetGiven : (Threaded.visit lowerer target select).1 =
      .ok (.sql column) := by
    cbv
  have unknownGiven : (Threaded.visit lowerer unknown select).1 =
      .ok .unsupported := by
    cbv
  have nameGiven : (Threaded.visit lowerer name select).1 =
      .ok (.sql (.constant (.string "Name") .string)) := by cbv
  have targetLowers : ∀ query, some target = some query →
      ∃ value, (Threaded.visit lowerer query select).1 = .ok value := by
    rintro _ ⟨⟩
    exact ⟨_, targetGiven⟩
  have argumentsLower : ∀ argument, argument ∈ [unknown, name] →
      ∃ value, (Threaded.visit lowerer argument select).1 = .ok value := by
    simpa using ⟨⟨_, unknownGiven⟩, _, nameGiven⟩
  obtain ⟨targetValue, values, ofTarget, ofArguments, decided, _, _⟩ :=
    lower_call_in_place lowerer select (some target) method [unknown, name]
      noAccess targetLowers argumentsLower
  obtain rfl : targetValue = some (.sql column) := by
    simpa [targetGiven] using ofTarget
  obtain rfl : values =
      [.unsupported, .sql (.constant (.string "Name") .string)] := by
    refine List.map_injective_iff.2 (fun _ _ => Except.ok.inj)
      (ofArguments.symm.trans ?_)
    simp [unknownGiven, nameGiven]
  exact decided [fun _ => none] ifUnknown [] _ rfl (by simp) rfl

end Lowerer
end QueryLowering
