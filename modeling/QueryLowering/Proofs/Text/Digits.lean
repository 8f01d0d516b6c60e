import Mathlib
import QueryLowering.Text.Digits

/-!
# Digits read back

A text of digits denotes one number, whatever the case of its letters and with
or without leading zeros. The decimal form of a number denotes that number, and
a fixed count of digits denotes its remainder by a power of the base, so that no
two numbers have the same digits.
-/

namespace QueryLowering
namespace Text

/-- A written form that is read back is the form of one value only. -/
theorem injective_of_readsBack
    {Value Form : Type}
    {write : Value → Form}
    {read? : Form → Option Value}
    (readsBack : ∀ value, read? (write value) = some value) :
    Function.Injective write := by
  intro first second same
  have read := readsBack first
  rw [same, readsBack] at read
  exact (Option.some.inj read).symm

section Reading

variable (base : Nat)

theorem digitValue?_digitChar :
    ∀ digit < 16, digitValue? (Nat.digitChar digit) = some digit := by
  decide

/-- The case of a letter does not change its value as a digit. -/
theorem digitValue?_toUpper (character : Char) :
    digitValue? character.toUpper = digitValue? character := by
  have lowerCase : ∀ code < 123,
      digitValue? (Char.ofNat code).toUpper =
        digitValue? (Char.ofNat code) := by
    decide +kernel
  by_cases isLower : 'a'.val ≤ character.val ∧ character.val ≤ 'z'.val
  · have bound : character.toNat ≤ 122 := UInt32.le_iff_toNat_le.1 isLower.2
    simpa only [Char.ofNat_toNat] using lowerCase character.toNat (by omega)
  · rw [Char.toUpper, dif_neg isLower]

/-- The last digit counts once, and the digits before it count as often as the
base says. -/
theorem digitsValue?_concat
    (digits : List Char)
    (value digit : Nat)
    (digitInBase : digit < base)
    (hexadecimal : digit < 16)
    (denotes : digitsValue? base digits = some value) :
    digitsValue? base (digits ++ [Nat.digitChar digit]) =
      some (value * base + digit) := by
  unfold digitsValue? at denotes ⊢
  rw [List.foldlM_append, denotes]
  simp [digitValue?_digitChar digit hexadecimal, digitInBase]

theorem digitsValue?_replicate_zero
    (positive : 0 < base)
    (count : Nat)
    (digits : List Char) :
    digitsValue? base (List.replicate count '0' ++ digits) =
      digitsValue? base digits := by
  have zero : digitValue? '0' = some 0 := rfl
  induction count with
  | zero => rfl
  | succ count inductionHypothesis =>
      rw [← inductionHypothesis]
      simp [digitsValue?, List.replicate_succ, zero, positive]

/-- The case of letters does not change the number that a text of digits
denotes. -/
theorem digitsValue?_map_toUpper (digits : List Char) :
    digitsValue? base (digits.map Char.toUpper) = digitsValue? base digits := by
  simp [digitsValue?, List.foldlM_map, digitValue?_toUpper]

theorem decimalValue?_of_ne_nil {digits : List Char} (nonempty : digits ≠ []) :
    decimalValue? digits = digitsValue? 10 digits := by
  cases digits with
  | nil => contradiction
  | cons => rfl

end Reading

section Decimal

theorem decimal_ne_nil (value : Nat) : decimal value ≠ [] := Nat.toDigits_ne_nil

theorem isDigit_of_mem_decimal {value : Nat} {character : Char} :
    character ∈ decimal value → character.isDigit = true :=
  Nat.isDigit_of_mem_toDigits (by decide) (by decide)

/-- The decimal form of a number denotes the number. -/
theorem digitsValue?_decimal (value : Nat) :
    digitsValue? 10 (decimal value) = some value := by
  induction value using Nat.strong_induction_on with
  | _ value inductionHypothesis =>
      rcases lt_or_ge value 10 with single | several
      · rw [decimal, Nat.toDigits_of_lt_base single]
        simpa using digitsValue?_concat 10 [] 0 value single (by omega) rfl
      · rw [decimal, Nat.toDigits_of_base_le (by decide) several]
        have denotes := inductionHypothesis (value / 10) (by omega)
        have lastDigit : value % 10 < 10 := Nat.mod_lt _ (by decide)
        rw [← decimal,
          digitsValue?_concat 10 _ _ _ lastDigit (by omega) denotes,
          Nat.div_add_mod' value 10]

theorem decimal_injective : Function.Injective decimal :=
  injective_of_readsBack digitsValue?_decimal

theorem minus_notMem_decimal (value : Nat) : '-' ∉ decimal value :=
  fun isMember => absurd (isDigit_of_mem_decimal isMember) (by decide)

theorem signedDecimal_injective : Function.Injective signedDecimal := by
  intro first second same
  unfold signedDecimal at same
  split at same <;> split at same
  · have sameDigits := decimal_injective (List.tail_eq_of_cons_eq same)
    omega
  · exact absurd (same ▸ List.mem_cons_self)
      (minus_notMem_decimal second.natAbs)
  · exact absurd (same ▸ List.mem_cons_self) (minus_notMem_decimal first.natAbs)
  · have sameDigits := decimal_injective same
    omega

theorem isDigit_of_mem_paddedDecimal {width value : Nat} {character : Char}
    (isMember : character ∈ paddedDecimal width value) :
      character.isDigit = true := by
  rcases List.mem_append.1 isMember with padding | digits
  · rw [List.eq_of_mem_replicate padding]
    decide
  · exact isDigit_of_mem_decimal digits

theorem le_length_paddedDecimal (width value : Nat) :
    width ≤ (paddedDecimal width value).length := by
  rw [paddedDecimal, List.length_append, List.length_replicate]
  omega

/-- Leading zeros do not change the number that the decimal form denotes. -/
theorem decimalValue?_paddedDecimal (width value : Nat) :
    decimalValue? (paddedDecimal width value) = some value := by
  have nonempty : paddedDecimal width value ≠ [] := by
    simp [paddedDecimal, decimal_ne_nil]
  rw [decimalValue?_of_ne_nil nonempty, paddedDecimal,
    digitsValue?_replicate_zero 10 (by decide), digitsValue?_decimal]

end Decimal

section Runs

/-- Decimal digits, and at least one. -/
structure IsDigits (text : List Char) : Prop where
  nonempty : text ≠ []
  isDigit : ∀ character, character ∈ text → character.isDigit = true

theorem isDigits_zero : IsDigits ['0'] :=
  ⟨List.cons_ne_nil _ _, List.forall_mem_singleton.2 rfl⟩

theorem isDigits_decimal (value : Nat) : IsDigits (decimal value) :=
  ⟨decimal_ne_nil value, fun _ => isDigit_of_mem_decimal⟩

theorem IsDigits.append
    {digits more : List Char}
    (isDigits : IsDigits digits)
    (moreDigits : ∀ character, character ∈ more → character.isDigit = true) :
    IsDigits (digits ++ more) :=
  ⟨List.append_ne_nil_of_left_ne_nil isDigits.nonempty more,
    List.forall_mem_append.2 ⟨isDigits.isDigit, moreDigits⟩⟩

end Runs

section Fixed

theorem fixedDigits_ne_nil
    (base : Nat)
    {width : Nat}
    (positive : 0 < width)
    (value : Nat) :
    fixedDigits base width value ≠ [] := by
  rw [← List.length_pos_iff, length_fixedDigits]
  exact positive

/-- A fixed count of digits denotes the remainder by a power of the base. -/
theorem digitsValue?_fixedDigits
    {base : Nat}
    (positive : 0 < base)
    (hexadecimal : base ≤ 16)
    (width value : Nat) :
    digitsValue? base (fixedDigits base width value) =
      some (value % base ^ width) := by
  induction width generalizing value with
  | zero => simp [digitsValue?, Nat.mod_one]
  | succ width inductionHypothesis =>
      have lastDigit : value % base < base := Nat.mod_lt _ positive
      rw [fixedDigits_succ,
        digitsValue?_concat base _ _ _ lastDigit (by omega)
          (inductionHypothesis (value / base)), Nat.pow_succ', Nat.mod_mul,
        Nat.mul_comm base, Nat.add_comm]

theorem decimalValue?_fixedDigits
    {width value : Nat}
    (positive : 0 < width)
    (fits : value < 10 ^ width) :
    decimalValue? (fixedDigits 10 width value) = some value := by
  rw [decimalValue?_of_ne_nil (fixedDigits_ne_nil 10 positive value),
    digitsValue?_fixedDigits (by decide) (by decide), Nat.mod_eq_of_lt fits]

theorem exists_of_mem_fixedDigits
    {base : Nat}
    (positive : 0 < base)
    {width value : Nat}
    {character : Char}
    (isMember : character ∈ fixedDigits base width value) :
    ∃ digit < base, character = Nat.digitChar digit := by
  induction width generalizing value with
  | zero => simp at isMember
  | succ width inductionHypothesis =>
      rcases List.mem_append.1 isMember with before | last
      · exact inductionHypothesis before
      · exact ⟨value % base, Nat.mod_lt _ positive, List.mem_singleton.1 last⟩

theorem isDigit_of_mem_fixedDigits {width value : Nat} {character : Char}
    (isMember : character ∈ fixedDigits 10 width value) :
      character.isDigit = true := by
  obtain ⟨digit, decimalDigit, rfl⟩ :=
    exists_of_mem_fixedDigits (by decide) isMember
  simpa [Nat.isDigit_digitChar] using decimalDigit

theorem digitsValue?_upperHexByte (byte : UInt8) :
    digitsValue? 16 (upperHexByte byte) = some byte.toNat := by
  rw [upperHexByte, digitsValue?_map_toUpper, hexByte,
    digitsValue?_fixedDigits (by decide) (by decide)]
  exact congrArg some (Nat.mod_eq_of_lt byte.toNat_lt)

@[simp] theorem length_upperHexByte (byte : UInt8) :
    (upperHexByte byte).length = 2 := by
  simp [upperHexByte, hexByte]

/-- Two digits a byte leave one way to divide the digits among the bytes. -/
theorem flatMap_upperHexByte_injective :
    Function.Injective
      fun bytes : List UInt8 => bytes.flatMap upperHexByte := by
  intro first second same
  induction first generalizing second with
  | nil =>
      cases second with
      | nil => rfl
      | cons byte bytes =>
          have lengths : 0 = 2 + bytes.length * 2 := by
            simpa using congrArg List.length same
          omega
  | cons firstByte firstBytes inductionHypothesis =>
      cases second with
      | nil =>
          have lengths := congrArg List.length same
          simp at lengths
      | cons secondByte secondBytes =>
          obtain ⟨sameDigits, sameRest⟩ := List.append_inj same (by simp)
          have sameNumber := digitsValue?_upperHexByte firstByte
          rw [sameDigits, digitsValue?_upperHexByte] at sameNumber
          rw [UInt8.toNat_inj.1 (Option.some.inj sameNumber),
            inductionHypothesis sameRest]

end Fixed

end Text
end QueryLowering
