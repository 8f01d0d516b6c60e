import Mathlib
import QueryLowering.DateTime
import QueryLowering.Proofs.Text.Digits

/-!
# Points in time read back

Each part of the written form of a point in time is read back, and the reader
stops where the next part starts: a year of four digits or with a sign, a number
of two digits, a separator, and the shortest exact fraction. The written form as
a whole therefore denotes the point in time that was written, so that different
points in time are written differently.
-/

namespace QueryLowering
namespace Text

theorem isBlank_of_isDigit
    {character : Char}
    (isDigit : character.isDigit = true) :
    isBlank character = false := by
  have bounds : 48 ≤ character.toNat ∧ character.toNat ≤ 57 := by
    simpa [Char.isDigit, UInt32.le_iff_toNat_le] using isDigit
  simp [isBlank]
  omega

@[simp] theorem dropBlanks_cons_of_visible
    {first : Char}
    (visible : isBlank first = false)
    (rest : List Char) :
    dropBlanks (first :: rest) = first :: rest :=
  List.dropWhile_cons_of_neg (by simp [visible])

end Text

theorem Calendar.daysInMonth_le (year : Int) (month : Nat) :
    daysInMonth year month ≤ 31 := by
  unfold daysInMonth
  split
  · split <;> decide
  all_goals decide

namespace DateTime

section Parts

theorem exists_fixedDigits_cons
    {width : Nat}
    (positive : 0 < width)
    (value : Nat) :
    ∃ first others, Text.fixedDigits 10 width value = first :: others ∧
      first.isDigit = true := by
  obtain ⟨first, others, written⟩ :=
    List.exists_cons_of_ne_nil (Text.fixedDigits_ne_nil 10 positive value)
  exact ⟨first, others, written,
    Text.isDigit_of_mem_fixedDigits (written ▸ List.mem_cons_self)⟩

theorem readNumber?_fixedDigits
    {width value : Nat}
    (positive : 0 < width)
    (fits : value < 10 ^ width)
    (rest : List Char) :
    readNumber? width (Text.fixedDigits 10 width value ++ rest) =
      some (value, rest) := by
  have noBlanks : Text.dropBlanks (Text.fixedDigits 10 width value ++ rest) =
      Text.fixedDigits 10 width value ++ rest := by
    obtain ⟨first, others, written, isDigit⟩ :=
      exists_fixedDigits_cons positive value
    rw [written, List.cons_append,
      Text.dropBlanks_cons_of_visible (Text.isBlank_of_isDigit isDigit)]
  have taken :
      ((Text.fixedDigits 10 width value ++ rest).take width).takeWhile
          Char.isDigit =
        Text.fixedDigits 10 width value := by
    rw [List.take_left' (Text.length_fixedDigits 10 width value),
      List.takeWhile_eq_self_iff.2 fun _ => Text.isDigit_of_mem_fixedDigits]
  simp only [readNumber?, noBlanks, taken,
    Text.decimalValue?_fixedDigits positive fits]
  simp

theorem readUnbounded?_paddedDecimal
    {separator : Char}
    (noDigit : separator.isDigit = false)
    (width value : Nat)
    (rest : List Char) :
    readYear?.unbounded? (Text.paddedDecimal width value ++ separator :: rest) =
      some (value, separator :: rest) := by
  have allDigits : ∀ character ∈ Text.paddedDecimal width value,
      character.isDigit = true :=
    fun _ => Text.isDigit_of_mem_paddedDecimal
  have taken :
      (Text.paddedDecimal width value ++ separator :: rest).takeWhile
          Char.isDigit =
        Text.paddedDecimal width value := by
    rw [List.takeWhile_append_of_pos allDigits,
      List.takeWhile_cons_of_neg (by simp [noDigit]), List.append_nil]
  have left :
      (Text.paddedDecimal width value ++ separator :: rest).dropWhile
          Char.isDigit =
        separator :: rest := by
    rw [List.dropWhile_append_of_pos allDigits,
      List.dropWhile_cons_of_neg (by simp [noDigit])]
  simp [readYear?.unbounded?, taken, left, Text.decimalValue?_paddedDecimal]

/-- A year is read up to the hyphen after it. -/
theorem readYear?_yearText (year : Int) (rest : List Char) :
    readYear? (yearText year ++ '-' :: rest) = some (year, '-' :: rest) := by
  unfold yearText
  split
  · next unsigned =>
      have positive : 0 < 4 := by decide
      have fits : year.toNat < 10 ^ 4 := by omega
      have number := readNumber?_fixedDigits positive fits ('-' :: rest)
      obtain ⟨first, others, written, isDigit⟩ :=
        exists_fixedDigits_cons positive year.toNat
      rw [written, List.cons_append] at number ⊢
      rw [readYear?,
        Text.dropBlanks_cons_of_visible (Text.isBlank_of_isDigit isDigit)]
      split
      · next minus =>
          rw [List.head_eq_of_cons_eq minus] at isDigit
          exact absurd isDigit (by decide)
      · next plus =>
          rw [List.head_eq_of_cons_eq plus] at isDigit
          exact absurd isDigit (by decide)
      · simp [number, unsigned.1]
  · next signed =>
      split
      · next negative =>
          have visible : Text.isBlank '-' = false := by decide
          have magnitude : -(year.natAbs : Int) = year := by omega
          rw [readYear?, List.cons_append,
            Text.dropBlanks_cons_of_visible visible]
          simpa [readUnbounded?_paddedDecimal] using magnitude
      · next positive =>
          have visible : Text.isBlank '+' = false := by decide
          have magnitude : (year.natAbs : Int) = year := by omega
          rw [readYear?, List.cons_append,
            Text.dropBlanks_cons_of_visible visible]
          simpa [readUnbounded?_paddedDecimal] using magnitude

theorem readSeparator?_cons
    {separator : Char}
    (visible : Text.isBlank separator = false)
    (rest : List Char) :
    readSeparator? separator (separator :: rest) = some rest := by
  simp [readSeparator?, Text.dropBlanks_cons_of_visible visible]

theorem readFraction?_fixedDigits
    {width value : Nat}
    (positive : 0 < width)
    (atMostNine : width ≤ 9)
    (fits : value < 10 ^ width) :
    readFraction? ('.' :: Text.fixedDigits 10 width value) =
      some (value * 10 ^ (9 - width), []) := by
  have allDigits : ∀ character ∈ Text.fixedDigits 10 width value,
      character.isDigit = true :=
    fun _ => Text.isDigit_of_mem_fixedDigits
  have short : (Text.fixedDigits 10 width value).take 9 =
      Text.fixedDigits 10 width value :=
    List.take_of_length_le (by simpa using atMostNine)
  have noRest : (Text.fixedDigits 10 width value).dropWhile Char.isDigit = [] :=
    List.dropWhile_eq_nil_iff.2 allDigits
  simp [readFraction?, short, noRest, List.takeWhile_eq_self_iff.2 allDigits,
    Text.decimalValue?_fixedDigits positive fits]

/-- A fraction is read to the end of the text. -/
theorem readFraction?_fractionText
    {nanosecond : Nat}
    (fits : nanosecond < 10 ^ 9) :
    readFraction? (fractionText nanosecond) = some (nanosecond, []) := by
  unfold fractionText
  split
  · next whole => rw [whole]; rfl
  split
  · next milliseconds =>
      have exact : nanosecond / 1000000 * 10 ^ (9 - 3) = nanosecond := by omega
      rw [readFraction?_fixedDigits (by decide) (by decide) (by omega), exact]
  split
  · next microseconds =>
      have exact : nanosecond / 1000 * 10 ^ (9 - 6) = nanosecond := by omega
      rw [readFraction?_fixedDigits (by decide) (by decide) (by omega), exact]
  · rw [readFraction?_fixedDigits (by decide) (by decide) fits]
    simp

theorem ofParts?_parts (dateTime : DateTime) :
    ofParts? dateTime.year dateTime.month dateTime.day dateTime.hour
        dateTime.minute dateTime.second dateTime.nanosecond =
      some dateTime := by
  simp [ofParts?, dateTime.isDate, dateTime.isTime]

end Parts

/-- The parts with a fixed count of digits fit into two digits. -/
theorem two_digits (dateTime : DateTime) :
    dateTime.month < 10 ^ 2 ∧ dateTime.day < 10 ^ 2 ∧ dateTime.hour < 10 ^ 2 ∧
      dateTime.minute < 10 ^ 2 ∧ dateTime.second < 10 ^ 2 := by
  obtain ⟨_, _, _, _, _, _⟩ := dateTime.isDate
  obtain ⟨_, _, _, _⟩ := dateTime.isTime
  have lastDay := Calendar.daysInMonth_le dateTime.year dateTime.month
  omega

/-- The written form of a point in time denotes that point in time. -/
theorem ofText?_text (dateTime : DateTime) :
    ofText? dateTime.text = some dateTime := by
  obtain ⟨month, day, hour, minute, second⟩ := dateTime.two_digits
  have hyphen : Text.isBlank '-' = false := by decide
  have timeMark : Text.isBlank 'T' = false := by decide
  have colon : Text.isBlank ':' = false := by decide
  have positive : 0 < 2 := by decide
  -- each reader takes the part that was written for it, and hands the rest to
  -- the next
  simp only [ofText?, text, List.append_assoc, List.cons_append,
    readYear?_yearText, readSeparator?_cons hyphen,
    readSeparator?_cons timeMark, readSeparator?_cons colon,
    readNumber?_fixedDigits positive month,
    readNumber?_fixedDigits positive day, readNumber?_fixedDigits positive hour,
    readNumber?_fixedDigits positive minute,
    readNumber?_fixedDigits positive second,
    readFraction?_fractionText dateTime.isTime.2.2.2, Option.bind_eq_bind,
    Option.bind_some]
  simpa [Text.dropBlanks] using dateTime.ofParts?_parts

theorem text_injective : Function.Injective text :=
  Text.injective_of_readsBack ofText?_text

end DateTime
end QueryLowering
