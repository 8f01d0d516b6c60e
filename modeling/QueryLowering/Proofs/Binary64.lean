import Mathlib
import QueryLowering.Proofs.Text.Digits
import QueryLowering.TypeMapping

/-!
# Floating-point numbers as text

The search for the shortest decimal of a finite value always finds one: its last
grid has the place of the seventeenth digit, which is smaller than the rounding
interval of the value. A finite value is therefore written as digits, possibly
with a point between them, and its SQL literal always has digits on both sides
of a point. An infinity is written by its name. The literal of a value that is
not a number is its name with a suffix, which is no form of a number.
-/

namespace QueryLowering

namespace Binary64

namespace RoundingInterval

variable (interval : RoundingInterval)

theorem contains_of_lt
    {number : Nat}
    (above : interval.lower < number)
    (below : number < interval.upper) :
    interval.contains number = true := by
  unfold contains
  split
  · exact decide_eq_true ⟨above.le, below.le⟩
  · exact decide_eq_true ⟨above, below⟩

/-- Of the two multiples of a step next to the middle, one lies in an interval
that is wider than the step. -/
theorem isSome_multiple?
    {step : Nat}
    (positive : 0 < step)
    (above : interval.lower < interval.middle)
    (below : interval.middle < interval.upper)
    (wide : interval.lower + step < interval.upper) :
    (interval.multiple? step).isSome = true := by
  have split := Nat.div_add_mod' interval.middle step
  have remainder := Nat.mod_lt interval.middle positive
  have next : (interval.middle / step + 1) * step =
      interval.middle / step * step + step :=
    Nat.succ_mul _ _
  have oneInside : interval.contains (interval.middle / step * step) = true ∨
      interval.contains ((interval.middle / step + 1) * step) = true := by
    rcases Nat.lt_or_ge interval.lower (interval.middle / step * step) with
      inside | outside
    · exact .inl (interval.contains_of_lt inside (by omega))
    · exact .inr (interval.contains_of_lt (by omega) (by omega))
  unfold multiple?
  rcases oneInside with inside | inside <;> grind

end RoundingInterval

/-- A search that comes to a grid with a point in the interval finds a decimal,
on that grid or on a coarser one. -/
theorem isSome_firstDecimal?
    (interval : RoundingInterval)
    {grids : Nat}
    (finer : Nat)
    (searched : finer < grids)
    {exponent : Int}
    (hasPoint : (interval.multiple?
      (Nat.pow 10 (exponent - finer + 340).toNat * Nat.pow 2 1076)).isSome =
      true) :
    (firstDecimal? interval grids exponent).isSome = true := by
  induction grids generalizing finer exponent with
  | zero => omega
  | succ grids inductionHypothesis =>
      rw [firstDecimal?]
      split
      · rfl
      · next noPoint =>
          cases finer with
          | zero =>
              rw [Int.natCast_zero, Int.sub_zero, noPoint] at hasPoint
              cases hasPoint
          | succ finer =>
              refine inductionHypothesis finer (by omega) ?_
              rwa [show exponent - 1 - (finer : Int) =
                exponent - (finer + 1 : Nat) by omega]

theorem fraction_lt (value : Binary64) : value.fraction < fractionCount :=
  Nat.mod_lt _ (by decide)

theorem significand_pos {value : Binary64} (nonzero : value.isZero = false) :
    0 < value.significand := by
  unfold significand
  split
  · next subnormal =>
      simpa [isZero, subnormal, Nat.pos_iff_ne_zero] using nonzero
  · exact Nat.add_pos_left (by decide) _

/-- A value is less than ten to the power sixteen times as large as its rounding
interval, both counted in quarters of the unit of its significand. The
significand is less than two to the power 53, and half of that where the
neighbour below is nearer. -/
theorem four_mul_significand_lt (value : Binary64) :
    4 * value.significand <
      (2 + if value.fraction = 0 ∧ 1 < value.exponentField then 1 else 2) *
        10 ^ 16 := by
  have bound := value.fraction_lt
  unfold fractionCount at bound
  unfold significand fractionCount
  split <;> split <;> omega

/-- The rounding interval of a value other than zero has the value inside. It is
wider than the place of the seventeenth digit of the value, and than one over
`2 ^ 1076`. -/
theorem ofFinite_wide {value : Binary64} (nonzero : value.isZero = false) :
    let interval := RoundingInterval.ofFinite value
    interval.lower < interval.middle ∧ interval.middle < interval.upper ∧
      ∀ step, step * 10 ^ 16 ≤ interval.middle ∨ step ≤ Nat.pow 10 340 →
        interval.lower + step < interval.upper := by
  have significant := value.four_mul_significand_lt
  have positive := significand_pos nonzero
  unfold RoundingInterval.ofFinite
  generalize value.significand = significand at significant positive
  have isBelow : 1 ≤
        (if value.fraction = 0 ∧ 1 < value.exponentField then 1 else 2) ∧
      (if value.fraction = 0 ∧ 1 < value.exponentField then 1 else 2) ≤ 2 := by
    split <;> decide
  generalize (if value.fraction = 0 ∧ 1 < value.exponentField then 1 else 2) =
    below at significant isBelow
  have leastUnit : Nat.pow 10 340 ≤ Nat.pow 2 value.scale * Nat.pow 10 340 :=
    Nat.le_mul_of_pos_left _ (Nat.pow_pos (by decide))
  generalize Nat.pow 2 value.scale * Nat.pow 10 340 = unit at leastUnit
  have unitPositive : 0 < unit := lt_of_lt_of_le (by decide +kernel) leastUnit
  have upperIs : (4 * significand - below) * unit + (2 + below) * unit =
      (4 * significand + 2) * unit := by
    rw [← Nat.add_mul]
    congr 1
    omega
  intro interval
  refine ⟨?_, ?_, fun step small => ?_⟩
  · exact Nat.mul_lt_mul_of_pos_right (by omega) unitPositive
  · exact Nat.mul_lt_mul_of_pos_right (by omega) unitPositive
  · have narrow : step < (2 + below) * unit := by
      rcases small with seventeenth | small
      · refine Nat.lt_of_mul_lt_mul_right (a := 10 ^ 16) ?_
        calc step * 10 ^ 16
            ≤ 4 * significand * unit := seventeenth
          _ < (2 + below) * 10 ^ 16 * unit :=
            Nat.mul_lt_mul_of_pos_right significant unitPositive
          _ = (2 + below) * unit * 10 ^ 16 := Nat.mul_right_comm _ _ _
      · calc step
            ≤ unit := small.trans leastUnit
          _ < (2 + below) * unit :=
            lt_mul_of_one_lt_left unitPositive (by omega)
    change (4 * significand - below) * unit + step <
      (4 * significand + 2) * unit
    omega

/-- Eighteen grids are enough: the last has the place of the seventeenth digit
of the middle, or the least place where the middle has fewer digits. -/
theorem isSome_firstDecimal?_of_wide
    (interval : RoundingInterval)
    (above : interval.lower < interval.middle)
    (below : interval.middle < interval.upper)
    (wide : ∀ step, step * 10 ^ 16 ≤ interval.middle ∨ step ≤ Nat.pow 10 340 →
      interval.lower + step < interval.upper) :
    (firstDecimal? interval 18
      ((Text.decimal (interval.middle / Nat.pow 2 1076)).length - 340)).isSome =
      true := by
  have scalingPositive : 0 < Nat.pow 2 1076 := by decide +kernel
  have scalingSmall : Nat.pow 2 1076 ≤ Nat.pow 10 340 := by decide +kernel
  generalize isLeading :
    (Text.decimal (interval.middle / Nat.pow 2 1076)).length = leading
  refine isSome_firstDecimal? interval 17 (by decide) ?_
  have place :
      ((leading : Int) - 340 - (17 : Nat) + 340).toNat = leading - 17 := by
    omega
  rw [place]
  refine interval.isSome_multiple?
    (Nat.mul_pos (Nat.pow_pos (by decide)) scalingPositive) above below
    (wide _ ?_)
  generalize Nat.pow 2 1076 = scaling at isLeading scalingPositive scalingSmall
  rcases Nat.lt_or_ge 17 leading with long | short
  · left
    have leadingDigit : 10 ^ (leading - 1) ≤ interval.middle / scaling := by
      rw [← Nat.not_lt, ← Nat.length_toDigits_le_iff (by decide) (by omega)]
      change ¬(Text.decimal _).length ≤ _
      omega
    calc Nat.pow 10 (leading - 17) * scaling * 10 ^ 16
        = 10 ^ (leading - 1) * scaling := by
          rw [Nat.mul_right_comm, Nat.pow_eq, ← Nat.pow_add]
          congr 2
          omega
      _ ≤ interval.middle / scaling * scaling :=
        Nat.mul_le_mul_right _ leadingDigit
      _ ≤ interval.middle := Nat.div_mul_le_self _ _
  · right
    rw [Nat.sub_eq_zero_of_le short]
    exact (Nat.one_mul scaling).le.trans scalingSmall

/-- A finite value other than zero has a shortest decimal. -/
theorem exists_shortest? {value : Binary64} (nonzero : value.isZero = false) :
    ∃ decimal, value.shortest? = some decimal := by
  obtain ⟨above, below, wide⟩ := ofFinite_wide nonzero
  exact Option.isSome_iff_exists.1
    (isSome_firstDecimal?_of_wide _ above below wide)

/-- A magnitude in decimal: digits, and possibly a point with digits after
it. -/
inductive IsPositional : List Char → Prop
  | whole {digits : List Char} :
      Text.IsDigits digits →
      IsPositional digits
  | fractional {whole fraction : List Char} :
      Text.IsDigits whole →
      Text.IsDigits fraction →
      IsPositional (whole ++ '.' :: fraction)

theorem IsPositional.mem
    {text : List Char}
    (positional : IsPositional text)
    {character : Char}
    (isMember : character ∈ text) :
    character = '.' ∨ character.isDigit = true := by
  cases positional with
  | whole digits => exact .inr (digits.isDigit _ isMember)
  | fractional whole fraction =>
      rcases List.mem_append.1 isMember with inWhole | pointOrAfter
      · exact .inr (whole.isDigit _ inWhole)
      · exact (List.mem_cons.1 pointOrAfter).imp_right (fraction.isDigit _)

/-- A point inside a run of digits leaves digits on both of its sides. -/
theorem isPositional_of_point
    {digits : List Char}
    (isDigit : ∀ character, character ∈ digits → character.isDigit = true)
    {places : Nat}
    (positive : 0 < places)
    (inside : places < digits.length) :
    IsPositional (digits.take (digits.length - places) ++
      '.' :: digits.drop (digits.length - places)) := by
  refine .fractional
    ⟨?_, fun _ isMember => isDigit _ (List.mem_of_mem_take isMember)⟩
    ⟨?_, fun _ isMember => isDigit _ (List.mem_of_mem_drop isMember)⟩
  · rw [← List.length_pos_iff, List.length_take]
    omega
  · rw [← List.length_pos_iff, List.length_drop]
    omega

theorem Decimal.isPositional_text (decimal : Decimal) :
    IsPositional decimal.text := by
  unfold text
  split
  · refine .whole
      ((Text.isDigits_decimal decimal.digits).append fun _ isZero => ?_)
    rw [List.eq_of_mem_replicate isZero]
    rfl
  · next negative =>
      have places : (-decimal.exponent).toNat + 1 ≤
          (Text.paddedDecimal ((-decimal.exponent).toNat + 1)
            decimal.digits).length :=
        Text.le_length_paddedDecimal _ _
      exact isPositional_of_point (fun _ => Text.isDigit_of_mem_paddedDecimal)
        (by omega) places

/-- The minus sign of a negative value. -/
def sign (value : Binary64) : List Char :=
  if value.isNegative then ['-'] else []

theorem text_of_isNaN {value : Binary64} (isNaN : value.isNaN = true) :
    value.text = ['N', 'a', 'N'] := by
  rw [text, if_pos isNaN]

theorem text_of_isNumber {value : Binary64} (isNumber : value.isNaN = false) :
    value.text = value.sign ++ value.magnitudeText := by
  rw [text, sign, isNumber]
  cases value.isNegative <;> rfl

theorem isNaN_of_isFinite {value : Binary64} (finite : value.isFinite = true) :
    value.isNaN = false := by
  simp_all [isNaN, isFinite]

theorem isNaN_of_isInfinite
    {value : Binary64}
    (infinite : value.isInfinite = true) :
    value.isNaN = false := by
  simp_all [isNaN, isInfinite]

theorem isFinite_of_isInfinite
    {value : Binary64}
    (infinite : value.isInfinite = true) :
    value.isFinite = false := by
  simp_all [isFinite, isInfinite]

theorem isPositional_magnitudeText
    {value : Binary64}
    (finite : value.isFinite = true) :
    IsPositional value.magnitudeText := by
  rw [magnitudeText, if_pos finite]
  split
  · exact .whole Text.isDigits_zero
  · next nonzero =>
      obtain ⟨decimal, isShortest⟩ :=
        exists_shortest? (Bool.eq_false_iff.2 nonzero)
      rw [isShortest]
      exact decimal.isPositional_text

theorem text_of_isInfinite
    {value : Binary64}
    (infinite : value.isInfinite = true) :
    value.text = value.sign ++ ['i', 'n', 'f'] := by
  rw [text_of_isNumber (isNaN_of_isInfinite infinite), magnitudeText,
    isFinite_of_isInfinite infinite]
  rfl

theorem mem_sign
    {value : Binary64}
    {character : Char}
    (isMember : character ∈ value.sign) :
    character = '-' := by
  unfold sign at isMember
  split at isMember
  · exact List.mem_singleton.1 isMember
  · cases isMember

/-- Neither an exponent mark nor any other letter occurs in the text of a finite
value. -/
theorem mem_text_of_isFinite
    {value : Binary64}
    (finite : value.isFinite = true)
    {character : Char}
    (isMember : character ∈ value.text) :
    character = '-' ∨ character = '.' ∨ character.isDigit = true := by
  rw [text_of_isNumber (isNaN_of_isFinite finite)] at isMember
  exact (List.mem_append.1 isMember).imp mem_sign
    (isPositional_magnitudeText finite).mem

/-- How a number is to be written in a statement: a finite one with its sign and
with digits on both sides of a point, and any other by its name. -/
inductive IsWrittenAs (value : Binary64) : List Char → Prop
  | finite {whole fraction : List Char} :
      value.isFinite = true →
      Text.IsDigits whole →
      Text.IsDigits fraction →
      IsWrittenAs value (value.sign ++ (whole ++ '.' :: fraction))
  | infinite :
      value.isInfinite = true →
      IsWrittenAs value (value.sign ++ ['i', 'n', 'f'])
  | notANumber :
      value.isNaN = true →
      IsWrittenAs value ['N', 'a', 'N']

/-- The name of a value that is not a number cannot take a suffix. -/
theorem not_isWrittenAs_suffixed (value : Binary64) :
    ¬value.IsWrittenAs "NaN.0".toList := by
  intro written
  have hasLetter : 'N' ∈ "NaN.0".toList := by decide
  generalize isText : "NaN.0".toList = text at written hasLetter
  cases written with
  | finite _ whole fraction =>
      rcases List.mem_append.1 hasLetter with inSign | inMagnitude
      · cases mem_sign inSign
      · exact absurd ((IsPositional.fractional whole fraction).mem inMagnitude)
          (by decide)
  | infinite =>
      rcases List.mem_append.1 hasLetter with inSign | inName
      · cases mem_sign inSign
      · exact absurd inName (by decide)
  | notANumber => exact absurd isText (by decide)

/-- A value is finite, infinite or not a number. -/
theorem cases_class (value : Binary64) :
    value.isFinite = true ∨ value.isInfinite = true ∨ value.isNaN = true := by
  by_cases greatest : value.exponentField = 2047
  · by_cases noFraction : value.fraction = 0
    · exact .inr (.inl (by simp [isInfinite, greatest, noFraction]))
    · exact .inr (.inr (by simp [isNaN, greatest, noFraction]))
  · exact .inl (by simp [isFinite, greatest])

end Binary64

namespace TypeMapping

theorem floatText_eq (value : Binary64) :
    floatText value =
      if '.' ∈ value.text ∨ 'e' ∈ value.text ∨ "inf".toList <:+: value.text then
        value.text
      else value.text ++ ['.', '0'] := by
  simp [floatText, String.contains_string_iff, or_assoc]

/-- No marker but the point occurs in a finite number, and a number without one
gets a point and a zero. -/
theorem floatText_of_isFinite
    {value : Binary64}
    (finite : value.isFinite = true) :
    value.IsWrittenAs (floatText value) := by
  have noMark : 'e' ∉ value.text := fun isMember =>
    absurd (Binary64.mem_text_of_isFinite finite isMember) (by decide)
  have noName : ¬"inf".toList <:+: value.text := fun occurs =>
    have isMember : 'i' ∈ value.text := occurs.subset (by decide)
    absurd (Binary64.mem_text_of_isFinite finite isMember) (by decide)
  have isText := Binary64.text_of_isNumber (Binary64.isNaN_of_isFinite finite)
  have positional := Binary64.isPositional_magnitudeText finite
  rw [floatText_eq]
  rw [isText] at noMark noName ⊢
  generalize value.magnitudeText = magnitude at noMark noName positional
  cases positional with
  | whole digits =>
      have noPoint : '.' ∉ value.sign ++ magnitude := by
        rw [List.mem_append]
        rintro (inSign | inMagnitude)
        · cases Binary64.mem_sign inSign
        · cases digits.isDigit _ inMagnitude
      rw [if_neg (by tauto), List.append_assoc]
      exact .finite finite digits Text.isDigits_zero
  | fractional whole fraction =>
      rw [if_pos (.inl (by simp))]
      exact .finite finite whole fraction

theorem floatText_of_isInfinite
    {value : Binary64}
    (infinite : value.isInfinite = true) :
    value.IsWrittenAs (floatText value) := by
  have isText := Binary64.text_of_isInfinite infinite
  have named : "inf".toList <:+: value.text :=
    isText ▸ ⟨value.sign, [], by simp⟩
  rw [floatText_eq, if_pos (.inr (.inr named)), isText]
  exact .infinite infinite

theorem floatText_of_isNaN {value : Binary64} (isNaN : value.isNaN = true) :
    floatText value = "NaN.0".toList := by
  rw [floatText_eq, Binary64.text_of_isNaN isNaN]
  decide

theorem isWrittenAs_floatText
    {value : Binary64}
    (isNumber : value.isNaN = false) :
    value.IsWrittenAs (floatText value) := by
  rcases value.cases_class with finite | infinite | isNaN
  · exact floatText_of_isFinite finite
  · exact floatText_of_isInfinite infinite
  · exact absurd isNaN (Bool.eq_false_iff.1 isNumber)

/-- Every number but one that is not a number is written as it should be: a
finite one as an optional minus sign and digits on both sides of a point, and an
infinity by its name. A value that is not a number gets the suffix of a whole
number after its name. -/
theorem literalText_float_isWrittenAs_iff
    (mapping : TypeMapping)
    (value : Binary64) :
    (value.IsWrittenAs (mapping.literalText (.float value)).toList ↔
        value.isNaN = false) ∧
      (mapping.literalText (.float value) = "NaN.0" ↔ value.isNaN = true) := by
  have characters : (mapping.literalText (.float value)).toList =
      floatText value :=
    String.toList_ofList
  rw [← String.toList_inj, characters]
  cases isNaN : value.isNaN with
  | true =>
      rw [floatText_of_isNaN isNaN]
      exact ⟨iff_of_false value.not_isWrittenAs_suffixed Bool.noConfusion,
        iff_of_true rfl rfl⟩
  | false =>
      have written := isWrittenAs_floatText isNaN
      refine ⟨iff_of_true written rfl,
        iff_of_false (fun same => ?_) Bool.noConfusion⟩
      exact value.not_isWrittenAs_suffixed (same ▸ written)

/-- The literal of a value that is not a number is not its name. -/
theorem literalText_float_notANumber :
    let value : Binary64 := ⟨0x7ff8000000000000⟩
    let mapping := ofStoreType "float" .double
    value.isNaN = true ∧ mapping.literalText (.float value) = "NaN.0" ∧
      ¬value.IsWrittenAs (mapping.literalText (.float value)).toList := by
  intro value mapping
  have isNaN : value.isNaN = true := by decide
  have isText : mapping.literalText (.float value) = "NaN.0" :=
    String.toList_inj.1 (String.toList_ofList.trans (floatText_of_isNaN isNaN))
  exact ⟨isNaN, isText, isText ▸ value.not_isWrittenAs_suffixed⟩

end TypeMapping
end QueryLowering
