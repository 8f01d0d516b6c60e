import Mathlib
import QueryLowering.Proofs.DateTime
import QueryLowering.Proofs.Text.Digits
import QueryLowering.TypeMapping

/-!
# Literals without loss

A quoted text is read back up to its own closing quote, whatever follows, as
long as that does not start with a quote. A text in a literal can therefore not
end the literal. The literals of integers, texts, points in time, identifiers
and bytes each determine their value.
-/

namespace QueryLowering

namespace Text.Quoted

theorem readBody?_cons_of_ne_mark
    {character : Char}
    (notMark : character ≠ mark)
    {tail : List Char}
    (nonempty : tail ≠ []) :
    readBody? (character :: tail) =
      (readBody? tail).map fun (text, after) => (character :: text, after) := by
  cases tail with
  | nil => exact absurd rfl nonempty
  | cons => rw [readBody?, if_neg notMark]

/-- The body of a quoted text is read up to the quote that closes it, one
doubled quote or one other character at a time. -/
theorem readBody?_double
    (text : List Char)
    {rest : List Char}
    (closed : rest.head? ≠ some mark) :
    readBody? (double text ++ mark :: rest) = some (text, rest) := by
  induction text with
  | nil =>
      cases rest with
      | nil => rfl
      | cons next others =>
          have notMark : next ≠ mark := by simpa using closed
          simp [readBody?, notMark]
  | cons character text inductionHypothesis =>
      by_cases isMark : character = mark
      · simp [readBody?, isMark, inductionHypothesis]
      · rw [double_cons, if_neg isMark, List.cons_append,
          readBody?_cons_of_ne_mark isMark (by simp), inductionHypothesis,
          Option.map_some]

/-- A quoted text is read back, and the reader stops at its closing quote. -/
theorem read?_write
    (text : List Char)
    {rest : List Char}
    (closed : rest.head? ≠ some mark) :
    read? (write text ++ rest) = some (text, rest) := by
  simpa [write, read?] using readBody?_double text closed

theorem write_injective : Function.Injective write := by
  intro first second same
  have read (text : List Char) : read? (write text) = some (text, []) := by
    simpa using read?_write text (by simp : [].head? ≠ some mark)
  have readFirst := read first
  rw [same, read] at readFirst
  simpa using readFirst.symm

end Text.Quoted

namespace Guid

theorem ungroup?_group {digits : List Char} (noHyphen : '-' ∉ digits) :
    ungroup? (group digits) = some digits := by
  have kept {part : List Char}
      (isPart : ∀ character ∈ part, character ∈ digits) :
      part.filter (· != '-') = part := by
    refine List.filter_eq_self.2 fun character isMember => ?_
    simpa using ne_of_mem_of_not_mem (isPart character isMember) noHyphen
  have firstKept :=
    kept fun _ isMember => List.mem_of_mem_take (i := 8) isMember
  have lastKept :=
    kept fun _ isMember => List.mem_of_mem_drop (i := 20) isMember
  have middleKept (start : Nat) :
      ((digits.drop start).take 4).filter (· != '-') =
        (digits.drop start).take 4 :=
    kept fun _ isMember => List.mem_of_mem_drop (List.mem_of_mem_take isMember)
  have join (start : Nat) :
      (digits.drop start).take 4 ++ digits.drop (start + 4) =
        digits.drop start :=
    List.drop_take_append_drop digits start 4
  have ungrouped : (group digits).filter (· != '-') = digits := by
    simp only [group, List.append_assoc, List.filter_append, List.filter_cons,
      firstKept, middleKept, lastKept]
    simp only [bne_self_eq_false, Bool.false_eq_true, if_false]
    rw [join 16, join 12, join 8, List.take_append_drop]
  simp [ungroup?, ungrouped]

theorem length_text (guid : Guid) : guid.text.length = 36 := by
  simp [text, group, digits]

theorem ofDigits?_digits (guid : Guid) : ofDigits? guid.digits = some guid := by
  have denoted : Text.digitsValue? 16 guid.digits = some guid.value.toNat := by
    rw [digits, Text.digitsValue?_fixedDigits (by decide) (by decide)]
    exact congrArg some (Nat.mod_eq_of_lt guid.value.isLt)
  have length : guid.digits.length = 32 := Text.length_fixedDigits 16 32 _
  simp [ofDigits?, length, denoted]

/-- The written form of an identifier denotes that identifier. -/
theorem ofText?_text (guid : Guid) : ofText? guid.text = some guid := by
  have noHyphen : '-' ∉ guid.digits := by
    intro hyphen
    obtain ⟨digit, hexadecimal, isDigit⟩ :=
      Text.exists_of_mem_fixedDigits (by decide) hyphen
    have noDigit : ∀ digit < 16, '-' ≠ Nat.digitChar digit := by decide
    exact noDigit digit hexadecimal isDigit
  have notDigits : ofDigits? guid.text = none := by
    simp [ofDigits?, guid.length_text]
  have grouped : ofGrouped? guid.text = some guid := by
    simp [ofGrouped?, text, ungroup?_group noHyphen, guid.ofDigits?_digits]
  simp [ofText?, notDigits, grouped]

theorem text_injective : Function.Injective text :=
  Text.injective_of_readsBack ofText?_text

end Guid

namespace TypeMapping

theorem literalText_injective_of
    {mapping : TypeMapping}
    {Value : Type}
    {literal : Value → Literal}
    (charactersInjective :
      Function.Injective
        fun value => mapping.literalCharacters (literal value)) :
    Function.Injective fun value => mapping.literalText (literal value) :=
  fun _ _ same => charactersInjective (String.ofList_injective same)

end TypeMapping
end QueryLowering
