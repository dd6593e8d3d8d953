/-!
# The calendar

Dates of the proleptic Gregorian calendar from year 1 to 9999, their place in the year, in the
count of days and in the week. A week belongs to the year that holds its Thursday.
-/

namespace LogLayout.Timestamp

/-- Whether the year has a 29 February. -/
def isLeap (year : Nat) : Bool := year % 4 = 0 && (year % 100 ≠ 0 || year % 400 = 0)

/-- The number of days of a year. -/
def daysInYear (year : Nat) : Nat := if isLeap year then 366 else 365

/-- The number of days of a month, zero for a month that does not exist. -/
def daysInMonth (year month : Nat) : Nat :=
  match month with
  | 1 | 3 | 5 | 7 | 8 | 10 | 12 => 31
  | 4 | 6 | 9 | 11 => 30
  | 2 => if isLeap year then 29 else 28
  | _ => 0

/-- The days of the months before `month`. -/
def daysBeforeMonth (year : Nat) : Nat → Nat
  | 0 => 0
  | month + 1 => daysBeforeMonth year month + daysInMonth year month

/-- The days of the years from 1 on before `year`. -/
def daysBeforeYear (year : Nat) : Nat :=
  let past := year - 1
  past * 365 + past / 4 - past / 100 + past / 400

/-- Whether year, month and day make a date. -/
def IsDate (year month day : Nat) : Prop :=
  (1 ≤ year ∧ year ≤ 9999) ∧ (1 ≤ month ∧ month ≤ 12) ∧ (1 ≤ day ∧ day ≤ daysInMonth year month)

instance (year month day : Nat) : Decidable (IsDate year month day) :=
  inferInstanceAs (Decidable (_ ∧ _))

/-- A day of the calendar. -/
structure Date where
  year : Nat
  month : Nat
  day : Nat
  isDate : IsDate year month day
  deriving Repr, DecidableEq

namespace Date

/-- The place in the year, from 1 on. -/
def dayOfYear (d : Date) : Nat := daysBeforeMonth d.year d.month + d.day

/-- The place in the count of days; the first of January of year 1 is day 1. -/
def ordinal (d : Date) : Nat := daysBeforeYear d.year + d.dayOfYear

/-- The day of the week, from 0 for Monday to 6 for Sunday. -/
def weekday (d : Date) : Nat := (d.ordinal + 6) % 7

/-- The day of the week, from 0 for Sunday to 6 for Saturday. -/
def weekdayFromSunday (d : Date) : Nat := d.ordinal % 7

/-- The year and number of the week that holds the day: those of the week's Thursday. -/
def week (d : Date) : Nat × Nat :=
  let thursday : Int := d.dayOfYear + 3 - d.weekday
  if thursday < 1 then (d.year - 1, ((thursday + daysInYear (d.year - 1)).toNat - 1) / 7 + 1)
  else if (daysInYear d.year : Int) < thursday then
    (d.year + 1, ((thursday - daysInYear d.year).toNat - 1) / 7 + 1)
  else (d.year, (thursday.toNat - 1) / 7 + 1)

end Date

/-- The year, month and day of a day count; the year may lie beyond 9999. -/
def fieldsOfOrdinal (ordinal : Nat) : Nat × Nat × Nat :=
  let days := ordinal - 1
  let (n400, r400) := (days / 146097, days % 146097)
  let (n100, r100) := (r400 / 36524, r400 % 36524)
  let (n4, r4) := (r100 / 1461, r100 % 1461)
  let (n1, r1) := (r4 / 365, r4 % 365)
  let year := n400 * 400 + n100 * 100 + n4 * 4 + n1 + 1
  if n1 = 4 || n100 = 4 then (year - 1, 12, 31)
  else
    let month := ((List.range 12).filter fun m => daysBeforeMonth year (m + 1) ≤ r1).length
    (year, month, r1 - daysBeforeMonth year month + 1)

/-- The number of weeks of a year: 53 if it starts on a Thursday, or on a Wednesday and is leap. -/
def weeksInYear (year : Nat) : Nat :=
  let first := (daysBeforeYear year + 7) % 7
  if first = 3 || (first = 2 && isLeap year) then 53 else 52

/-- The day count of the Monday of the first week of a year. -/
def firstMonday (year : Nat) : Nat :=
  let newYear := daysBeforeYear year + 1
  let weekday := (newYear + 6) % 7
  if 3 < weekday then newYear - weekday + 7 else newYear - weekday

end LogLayout.Timestamp
