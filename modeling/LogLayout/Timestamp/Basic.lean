import LogLayout.Number.Rounding
import LogLayout.Timestamp.Calendar

/-!
# Timestamps

A timestamp is a date, a time of day to the microsecond and, optionally, an offset from universal
time. Times of two timestamps compare only if both have an offset or neither has.
-/

namespace LogLayout

namespace Timestamp

/-- Whether the numbers make a time of day. There is no leap second. -/
def IsTime (hour minute second microsecond : Nat) : Prop :=
  hour < 24 ∧ minute < 60 ∧ second < 60 ∧ microsecond < 1000000

instance (hour minute second microsecond : Nat) :
    Decidable (IsTime hour minute second microsecond) :=
  inferInstanceAs (Decidable (_ ∧ _))

/-- A time of day. -/
structure Time where
  hour : Nat
  minute : Nat
  second : Nat
  microsecond : Nat
  isTime : IsTime hour minute second microsecond
  deriving Repr, DecidableEq

/-- The microseconds since midnight. -/
def Time.sinceMidnight (t : Time) : Nat :=
  ((t.hour * 60 + t.minute) * 60 + t.second) * 1000000 + t.microsecond

/-- The microseconds of a day. -/
def dayLength : Nat := 86400000000

/-- How far a local time is ahead of universal time, in microseconds; less than a day. -/
structure Offset where
  microseconds : Int
  isOffset : microseconds.natAbs < dayLength
  deriving Repr, DecidableEq

end Timestamp

/-- A moment as a local date and time, with or without its offset from universal time. -/
structure Timestamp where
  date : Timestamp.Date
  time : Timestamp.Time
  offset : Option Timestamp.Offset
  deriving Repr, DecidableEq

namespace Timestamp

/-- Midnight of the first day of the calendar. -/
instance : Inhabited Timestamp :=
  ⟨⟨⟨1, 1, 1, by decide⟩, ⟨0, 0, 0, 0, by decide⟩, none⟩⟩

/-- The microseconds from the start of the calendar, in local time. -/
def localMicroseconds (t : Timestamp) : Int := t.date.ordinal * dayLength + t.time.sinceMidnight

/-- The microseconds from `earlier` to `later`; `none` if just one of them has an offset. -/
def microsecondsBetween? (earlier later : Timestamp) : Option Int :=
  match earlier.offset, later.offset with
  | none, none => some (later.localMicroseconds - earlier.localMicroseconds)
  | some a, some b =>
    some ((later.localMicroseconds - b.microseconds)
      - (earlier.localMicroseconds - a.microseconds))
  | _, _ => none

/-- Microseconds in milliseconds, by way of seconds: the quotient by a million and its product
with a thousand are each rounded to a double, and what follows the point is dropped. -/
def millisecondsOf (microseconds : Int) : Int :=
  let seconds := Number.nearest microseconds.natAbs 1000000
  let milliseconds : Int := (seconds.times 1000).floor
  if microseconds < 0 then -milliseconds else milliseconds

end Timestamp

end LogLayout
