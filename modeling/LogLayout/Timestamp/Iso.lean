import LogLayout.Timestamp.Basic

/-!
# Timestamps as ISO text

`2024-01-02T03:04:05.678901+05:30`: the fraction is left out when it is zero, the offset when there
is none, and the seconds of the offset when they are zero.
-/

namespace LogLayout.Timestamp

/-- The last `width` decimal digits of `n`, with leading zeros. -/
def fixedDigits : Nat → Nat → List Char
  | 0, _ => []
  | width + 1, n => fixedDigits width (n / 10) ++ [Nat.digitChar (n % 10)]

/-- Year, month and day. -/
def Date.isoChars (d : Date) : List Char :=
  fixedDigits 4 d.year ++ '-' :: fixedDigits 2 d.month ++ '-' :: fixedDigits 2 d.day

/-- Hour, minute and second. -/
def Time.isoChars (t : Time) : List Char :=
  fixedDigits 2 t.hour ++ ':' :: fixedDigits 2 t.minute ++ ':' :: fixedDigits 2 t.second

/-- The offset as sign, hours and minutes with `separator` between them, then the seconds and the
microseconds as far as they are not zero. -/
def Offset.chars (separator : List Char) (o : Offset) : List Char :=
  let total := o.microseconds.natAbs
  let seconds := total / 1000000
  let fraction := total % 1000000
  (if o.microseconds < 0 then '-' else '+') :: fixedDigits 2 (seconds / 3600)
    ++ separator ++ fixedDigits 2 (seconds / 60 % 60)
    ++ (if seconds % 60 = 0 && fraction = 0 then []
        else separator ++ fixedDigits 2 (seconds % 60))
    ++ (if fraction = 0 then [] else '.' :: fixedDigits 6 fraction)

/-- The offset of a timestamp, or nothing. -/
def offsetChars (t : Timestamp) : List Char :=
  match t.offset with
  | none => []
  | some o => o.chars [':']

/-- The fraction of the second in microseconds, or nothing if it is zero. -/
def Time.fractionChars (t : Time) : List Char :=
  if t.microsecond = 0 then [] else '.' :: fixedDigits 6 t.microsecond

/-- The text with as many parts as the timestamp needs. -/
def iso (t : Timestamp) : String :=
  .ofList (t.date.isoChars ++ 'T' :: t.time.isoChars ++ t.time.fractionChars ++ t.offsetChars)

/-- The text with exactly three digits of the fraction; the others are dropped. -/
def isoMilliseconds (t : Timestamp) : String :=
  .ofList (t.date.isoChars ++ 'T' :: t.time.isoChars
    ++ '.' :: fixedDigits 3 (t.time.microsecond / 1000) ++ t.offsetChars)

end LogLayout.Timestamp
