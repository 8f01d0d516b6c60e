import Mathlib
import QueryLowering.Proofs.Text.Digits
import QueryLowering.Proofs.Traversal
import QueryLowering.Text.Unsigned

/-!
# Unsigned numbers read from text

Reading accepts exactly the texts of an optional plus sign and digits that
denote a number below `2 ^ 32`, whatever the count of leading zeros. Any other
text is refused for the first character at which it goes wrong: one that is no
digit, or a digit that makes the number too large.
-/

namespace QueryLowering
namespace Text

/-- A number as text: an optional plus sign, and at least one digit. -/
inductive IsUnsigned : (text : List Char) → (value : Nat) → Prop
  | plain {digits : List Char} :
      IsDigits digits →
      IsUnsigned digits (Nat.ofDigitChars 10 digits 0)
  | signed {digits : List Char} :
      IsDigits digits →
      IsUnsigned ('+' :: digits) (Nat.ofDigitChars 10 digits 0)

/-- The first character at which digits go wrong: the digits before it denote a
number below `2 ^ 32`, and it is no digit or makes the number too large. -/
inductive DigitsFault : (digits : List Char) → UnsignedError → Prop
  | invalidDigit {before after : List Char} {character : Char} :
      (∀ earlier, earlier ∈ before → earlier.isDigit = true) →
      Nat.ofDigitChars 10 before 0 < 2 ^ 32 →
      character.isDigit = false →
      DigitsFault (before ++ character :: after) .invalidDigit
  | tooLarge {before after : List Char} {character : Char} :
      (∀ earlier, earlier ∈ before → earlier.isDigit = true) →
      Nat.ofDigitChars 10 before 0 < 2 ^ 32 →
      character.isDigit = true →
      2 ^ 32 ≤ Nat.ofDigitChars 10 (before ++ [character]) 0 →
      DigitsFault (before ++ character :: after) .tooLarge

/-- Why a text is no number below `2 ^ 32`: nothing in it, a plus sign alone, or
digits that go wrong, after a plus sign if there is one. -/
inductive UnsignedFault : (text : List Char) → UnsignedError → Prop
  | empty : UnsignedFault [] .empty
  | loneSign : UnsignedFault ['+'] .invalidDigit
  | plain {digits : List Char} {error : UnsignedError} :
      digits.head? ≠ some '+' →
      DigitsFault digits error →
      UnsignedFault digits error
  | signed {digits : List Char} {error : UnsignedError} :
      DigitsFault digits error →
      UnsignedFault ('+' :: digits) error

/-- Further digits do not make a number smaller. -/
theorem le_ofDigitChars (digits : List Char) (value : Nat) :
    value ≤ Nat.ofDigitChars 10 digits value := by
  rw [Nat.ofDigitChars_eq_ofDigitChars_zero]
  exact (Nat.le_mul_of_pos_left _ (Nat.pow_pos (by decide))).trans
    (Nat.le_add_right _ _)

/-- Extend a number by one digit. -/
def extendDigit (value : Nat) (character : Char) : Except UnsignedError Nat :=
  if character.isDigit then
    if Nat.ofDigitChars 10 [character] value < 2 ^ 32 then
      .ok (Nat.ofDigitChars 10 [character] value)
    else .error .tooLarge
  else .error .invalidDigit

theorem extendUnsigned_eq_foldlM (value : Nat) (digits : List Char) :
    extendUnsigned value digits = digits.foldlM extendDigit value := by
  induction digits generalizing value with
  | nil => rfl
  | cons character rest inductionHypothesis =>
      have size : UInt32.size = 2 ^ 32 := rfl
      simp only [List.foldlM_cons, extendUnsigned, extendDigit,
        Nat.ofDigitChars_cons, Nat.ofDigitChars_nil, Nat.mul_comm 10,
        inductionHypothesis, size]
      split
      · split <;> rfl
      · rfl

theorem extendDigit_eq_ok_iff (value : Nat) (character : Char) (next : Nat) :
    extendDigit value character = .ok next ↔
      character.isDigit = true ∧ Nat.ofDigitChars 10 [character] value = next ∧
        next < 2 ^ 32 := by
  unfold extendDigit
  grind

theorem extendDigit_eq_error_iff
    (value : Nat)
    (character : Char)
    (error : UnsignedError) :
    extendDigit value character = .error error ↔
      character.isDigit = false ∧ error = .invalidDigit ∨
        character.isDigit = true ∧
          2 ^ 32 ≤ Nat.ofDigitChars 10 [character] value ∧
          error = .tooLarge := by
  unfold extendDigit
  grind

/-- Digits extend a number as long as the result stays below `2 ^ 32`, which no
number on the way exceeds. -/
theorem extendUnsigned_eq_ok_iff
    {value : Nat}
    (small : value < 2 ^ 32)
    (digits : List Char)
    (result : Nat) :
    extendUnsigned value digits = .ok result ↔
      (∀ character, character ∈ digits → character.isDigit = true) ∧
        Nat.ofDigitChars 10 digits value = result ∧ result < 2 ^ 32 := by
  rw [extendUnsigned_eq_foldlM]
  induction digits generalizing value with
  | nil =>
      constructor
      · rintro ⟨⟩
        exact ⟨List.forall_mem_nil _, rfl, small⟩
      · rintro ⟨_, rfl, _⟩
        rfl
  | cons character rest inductionHypothesis =>
      rw [List.foldlM_cons, bind_eq_ok_iff, List.forall_mem_cons]
      simp only [extendDigit_eq_ok_iff]
      constructor
      · rintro ⟨next, ⟨isDigit, rfl, nextSmall⟩, extended⟩
        obtain ⟨restDigits, isResult, resultSmall⟩ :=
          (inductionHypothesis nextSmall).1 extended
        exact ⟨⟨isDigit, restDigits⟩, isResult, resultSmall⟩
      · rintro ⟨⟨isDigit, restDigits⟩, isResult, resultSmall⟩
        have nextSmall : Nat.ofDigitChars 10 [character] value < 2 ^ 32 :=
          lt_of_le_of_lt (isResult ▸ le_ofDigitChars rest _) resultSmall
        exact ⟨_, ⟨isDigit, rfl, nextSmall⟩,
          (inductionHypothesis nextSmall).2 ⟨restDigits, isResult, resultSmall⟩⟩

theorem extendUnsigned_zero_eq_error_iff
    (digits : List Char)
    (error : UnsignedError) :
    extendUnsigned 0 digits = .error error ↔ DigitsFault digits error := by
  rw [extendUnsigned_eq_foldlM, foldlM_eq_error_iff]
  simp only [← extendUnsigned_eq_foldlM,
    extendUnsigned_eq_ok_iff (by decide : 0 < 2 ^ 32), extendDigit_eq_error_iff]
  constructor
  · rintro ⟨before, character, after, _, rfl, ⟨digitsBefore, rfl, small⟩, fault⟩
    rcases fault with ⟨noDigit, rfl⟩ | ⟨isDigit, large, rfl⟩
    · exact .invalidDigit digitsBefore small noDigit
    · rw [← Nat.ofDigitChars_append] at large
      exact .tooLarge digitsBefore small isDigit large
  · rintro (⟨digitsBefore, small, noDigit⟩ |
      ⟨digitsBefore, small, isDigit, large⟩)
    · exact ⟨_, _, _, _, rfl, ⟨digitsBefore, rfl, small⟩, .inl ⟨noDigit, rfl⟩⟩
    · rw [Nat.ofDigitChars_append] at large
      exact ⟨_, _, _, _, rfl, ⟨digitsBefore, rfl, small⟩,
        .inr ⟨isDigit, large, rfl⟩⟩

/-- The digits of a number after its sign, as a word of 32 bits. -/
theorem map_extendUnsigned_eq_ok_iff (digits : List Char) (value : UInt32) :
    (extendUnsigned 0 digits).map UInt32.ofNat = .ok value ↔
      (∀ character, character ∈ digits → character.isDigit = true) ∧
        Nat.ofDigitChars 10 digits 0 = value.toNat := by
  simp only [map_eq_ok_iff, extendUnsigned_eq_ok_iff (by decide : 0 < 2 ^ 32)]
  constructor
  · rintro ⟨number, ⟨allDigits, isNumber, small⟩, rfl⟩
    exact ⟨allDigits, isNumber.trans (UInt32.toNat_ofNat_of_lt' small).symm⟩
  · rintro ⟨allDigits, isNumber⟩
    exact ⟨value.toNat, ⟨allDigits, isNumber, value.toNat_lt⟩,
      UInt32.ofNat_toNat⟩

theorem map_extendUnsigned_eq_error_iff
    (digits : List Char)
    (error : UnsignedError) :
    (extendUnsigned 0 digits).map UInt32.ofNat = .error error ↔
      DigitsFault digits error := by
  rw [map_eq_error_iff, extendUnsigned_zero_eq_error_iff]

theorem readUnsigned_signed {digits : List Char} (nonempty : digits ≠ []) :
    readUnsigned ('+' :: digits) =
      (extendUnsigned 0 digits).map UInt32.ofNat := by
  cases digits with
  | nil => contradiction
  | cons => rfl

theorem readUnsigned_plain
    {digits : List Char}
    (nonempty : digits ≠ [])
    (noSign : digits.head? ≠ some '+') :
    readUnsigned digits = (extendUnsigned 0 digits).map UInt32.ofNat := by
  cases digits with
  | nil => contradiction
  | cons first rest =>
      have notSign : first ≠ '+' := by simpa using noSign
      simp [readUnsigned, notSign]

/-- A text is empty, a plus sign alone, or starts with a plus sign or with
anything else. -/
theorem cases_sign (text : List Char) :
    text = [] ∨ text = ['+'] ∨ (∃ digits, digits ≠ [] ∧ text = '+' :: digits) ∨
      text ≠ [] ∧ text.head? ≠ some '+' := by
  grind [cases List]

theorem IsDigits.head?_ne_plus
    {digits : List Char}
    (isDigits : IsDigits digits) :
    digits.head? ≠ some '+' :=
  fun startsWithPlus =>
    absurd (isDigits.isDigit '+' (List.mem_of_head? startsWithPlus)) (by decide)

theorem DigitsFault.ne_nil {digits : List Char} {error : UnsignedError}
    (fault : DigitsFault digits error) : digits ≠ [] := by
  cases fault <;> simp

/-- Reading accepts exactly the numbers below `2 ^ 32`, with or without a plus
sign and with any count of leading zeros. -/
theorem readUnsigned_eq_ok_iff (text : List Char) (value : UInt32) :
    readUnsigned text = .ok value ↔ IsUnsigned text value.toNat := by
  constructor
  · intro accepted
    rcases cases_sign text with
      rfl | rfl | ⟨digits, nonempty, rfl⟩ | ⟨nonempty, noSign⟩
    · cases accepted
    · cases accepted
    · rw [readUnsigned_signed nonempty,
        map_extendUnsigned_eq_ok_iff] at accepted
      exact accepted.2 ▸ .signed ⟨nonempty, accepted.1⟩
    · rw [readUnsigned_plain nonempty noSign,
        map_extendUnsigned_eq_ok_iff] at accepted
      exact accepted.2 ▸ .plain ⟨nonempty, accepted.1⟩
  · intro isNumber
    generalize sameNumber : value.toNat = number at isNumber
    cases isNumber with
    | plain isDigits =>
        rw [readUnsigned_plain isDigits.nonempty isDigits.head?_ne_plus]
        exact (map_extendUnsigned_eq_ok_iff _ _).2
          ⟨isDigits.isDigit, sameNumber.symm⟩
    | signed isDigits =>
        rw [readUnsigned_signed isDigits.nonempty]
        exact (map_extendUnsigned_eq_ok_iff _ _).2
          ⟨isDigits.isDigit, sameNumber.symm⟩

/-- Reading refuses any other text for the first character at which it goes
wrong. -/
theorem readUnsigned_eq_error_iff (text : List Char) (error : UnsignedError) :
    readUnsigned text = .error error ↔ UnsignedFault text error := by
  constructor
  · intro refused
    rcases cases_sign text with
      rfl | rfl | ⟨digits, nonempty, rfl⟩ | ⟨nonempty, noSign⟩
    · cases refused
      exact .empty
    · cases refused
      exact .loneSign
    · rw [readUnsigned_signed nonempty,
        map_extendUnsigned_eq_error_iff] at refused
      exact .signed refused
    · rw [readUnsigned_plain nonempty noSign,
        map_extendUnsigned_eq_error_iff] at refused
      exact .plain noSign refused
  · intro fault
    cases fault with
    | empty => rfl
    | loneSign => rfl
    | plain noSign fault =>
        rw [readUnsigned_plain fault.ne_nil noSign]
        exact (map_extendUnsigned_eq_error_iff _ _).2 fault
    | signed fault =>
        rw [readUnsigned_signed fault.ne_nil]
        exact (map_extendUnsigned_eq_error_iff _ _).2 fault

end Text
end QueryLowering
