import QueryLowering.Text.Blank
import QueryLowering.Text.Digits

/-!
# Points in time

A date of the proleptic Gregorian calendar with a time of day, and without a
time zone. A second numbered 60 is a leap second, which may follow any minute.

The written form is `2024-03-01T10:30:00`. A year outside 0 to 9999 carries a
sign, and the fraction of a second is absent or the shortest exact one of three,
six or nine digits.
-/

namespace QueryLowering

namespace Calendar

/-- Whether a year of the Gregorian calendar has 366 days. -/
def isLeapYear (year : Int) : Bool :=
  year % 4 == 0 && (year % 100 != 0 || year % 400 == 0)

/-- The number of days of a month. -/
def daysInMonth (year : Int) : (month : Nat) → Nat
  | 2 => if isLeapYear year then 29 else 28
  | 4 | 6 | 9 | 11 => 30
  | _ => 31

/-- A day of the calendar, in the years that can be represented. -/
def IsDate (year : Int) (month day : Nat) : Prop :=
  -262143 ≤ year ∧ year ≤ 262142 ∧
    1 ≤ month ∧ month ≤ 12 ∧ 1 ≤ day ∧ day ≤ daysInMonth year month

/-- A time of day. -/
def IsTime (hour minute second nanosecond : Nat) : Prop :=
  hour < 24 ∧ minute < 60 ∧ second ≤ 60 ∧ nanosecond < 1000000000

instance (year : Int) (month day : Nat) :
    Decidable (IsDate year month day) := by
  unfold IsDate; infer_instance

instance (hour minute second nanosecond : Nat) :
    Decidable (IsTime hour minute second nanosecond) := by
  unfold IsTime; infer_instance

end Calendar

/-- A day of the calendar with a time of day. -/
structure DateTime where
  year : Int
  month : Nat
  day : Nat
  hour : Nat
  minute : Nat
  second : Nat
  nanosecond : Nat
  isDate : Calendar.IsDate year month day
  isTime : Calendar.IsTime hour minute second nanosecond
  deriving DecidableEq

namespace DateTime

/-- The point in time with the given parts, if they form one. -/
def ofParts?
    (year : Int)
    (month day hour minute second nanosecond : Nat) :
    Option DateTime :=
  if isDate : Calendar.IsDate year month day then
    if isTime : Calendar.IsTime hour minute second nanosecond then
      some
        { year, month, day, hour, minute, second, nanosecond, isDate, isTime }
    else none
  else none

/-- Four digits for the years 0 to 9999, and a sign before at least four digits
for the others. -/
def yearText (year : Int) : List Char :=
  if 0 ≤ year ∧ year ≤ 9999 then Text.fixedDigits 10 4 year.toNat
  else (if year < 0 then '-' else '+') :: Text.paddedDecimal 4 year.natAbs

/-- The shortest exact fraction of three, six or nine digits, or nothing for a
whole second. -/
def fractionText (nanosecond : Nat) : List Char :=
  if nanosecond = 0 then []
  else if nanosecond % 1000000 = 0 then
    '.' :: Text.fixedDigits 10 3 (nanosecond / 1000000)
  else if nanosecond % 1000 = 0 then
    '.' :: Text.fixedDigits 10 6 (nanosecond / 1000)
  else '.' :: Text.fixedDigits 10 9 nanosecond

/-- The written form of a point in time. -/
def text (dateTime : DateTime) : List Char :=
  yearText dateTime.year
    ++ '-' :: Text.fixedDigits 10 2 dateTime.month
    ++ '-' :: Text.fixedDigits 10 2 dateTime.day
    ++ 'T' :: Text.fixedDigits 10 2 dateTime.hour
    ++ ':' :: Text.fixedDigits 10 2 dateTime.minute
    ++ ':' :: Text.fixedDigits 10 2 dateTime.second
    ++ fractionText dateTime.nanosecond

/-- Read a number of one to `width` digits, after any blanks: the number, and
what follows it. -/
def readNumber?
    (width : Nat)
    (text : List Char) :
    Option (Nat × List Char) := do
  let text := Text.dropBlanks text
  let digits := (text.take width).takeWhile Char.isDigit
  let value ← Text.decimalValue? digits
  return (value, text.drop digits.length)

/-- Read a year: at most four digits, or any number of digits after a sign. -/
def readYear? (text : List Char) : Option (Int × List Char) :=
  match Text.dropBlanks text with
  | '-' :: digits => do
      let (value, rest) ← unbounded? digits
      return (-(value : Int), rest)
  | '+' :: digits => do
      let (value, rest) ← unbounded? digits
      return ((value : Int), rest)
  | unsigned => do
      let (value, rest) ← readNumber? 4 unsigned
      return ((value : Int), rest)
where
  /-- A number of any length, directly at the start of the text. -/
  unbounded? (text : List Char) : Option (Nat × List Char) := do
    let value ← Text.decimalValue? (text.takeWhile Char.isDigit)
    return (value, text.dropWhile Char.isDigit)

/-- Read one given character, after any blanks: what follows it. -/
def readSeparator? (separator : Char) (text : List Char) : Option (List Char) :=
  match Text.dropBlanks text with
  | [] => none
  | first :: rest => if first = separator then some rest else none

/-- Read a fraction of a second, if a point starts the text: the nanoseconds of
its first nine digits, and what follows all its digits. -/
def readFraction? : List Char → Option (Nat × List Char)
  | '.' :: rest => do
      let digits := (rest.take 9).takeWhile Char.isDigit
      let value ← Text.decimalValue? digits
      return (value * Nat.pow 10 (9 - digits.length),
        rest.dropWhile Char.isDigit)
  | text => some (0, text)

/-- Read a point in time. Blanks may stand before each number and separator and
at the end. -/
def ofText? (text : List Char) : Option DateTime := do
  let (year, text) ← readYear? text
  let (month, text) ← readNumber? 2 (← readSeparator? '-' text)
  let (day, text) ← readNumber? 2 (← readSeparator? '-' text)
  let (hour, text) ← readNumber? 2 (← readSeparator? 'T' text)
  let (minute, text) ← readNumber? 2 (← readSeparator? ':' text)
  let (second, text) ← readNumber? 2 (← readSeparator? ':' text)
  let (nanosecond, text) ← readFraction? text
  if (Text.dropBlanks text).isEmpty then
    ofParts? year month day hour minute second nanosecond
  else none

end DateTime
end QueryLowering
