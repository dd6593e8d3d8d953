import LogLayout.Timestamp.Iso

/-!
# Reading ISO text

Reads a date by month and day or by week, with or without hyphens, then any one character and a
time of day, with or without colons, whose minutes, seconds and fraction may be missing, then an
offset or `Z`. Digits of the fraction after the sixth are dropped.
-/

namespace LogLayout.Timestamp

/-- Why a text is no timestamp: its form, or a field that is out of range. -/
inductive IsoFault
  | malformed
  | year (n : Nat)
  | month
  | day
  | hour
  | minute
  | second
  | offset (microseconds : Int)
  deriving Repr, DecidableEq

/-- Reads `width` ASCII digits onto the number `n`. -/
def readDigits (n : Nat) : Nat → List Char → Option (Nat × List Char)
  | 0, cs => some (n, cs)
  | _ + 1, [] => none
  | width + 1, c :: cs =>
    if c.isDigit then readDigits (10 * n + (c.toNat - '0'.toNat)) width cs else none

/-! ## Date -/

/-- Where the date ends. The fifth and sixth characters tell the forms apart. A hyphen after the
week is followed by the day, unless a digit stands where the time would start; without hyphens
the number of digits after the week decides, since hours come in pairs. -/
def dateLength (cs : List Char) : Option Nat :=
  let digitAt := fun i => (cs[i]?).any Char.isDigit
  if cs.length = 7 then some 7
  else if cs[4]? = some '-' then
    if cs[5]? = some 'W' then
      if cs.length < 8 then none
      else if cs[8]? = some '-' then
        if cs.length = 9 then none
        else if digitAt 10 then some 8
        else some 10
      else some 8
    else some 10
  else if cs[4]? = some 'W' then
    let stop := 7 + ((cs.drop 7).takeWhile Char.isDigit).length
    if stop < 9 then some stop
    else if stop % 2 = 0 then some 7
    else some 8
  else some 8

/-- Year, month and day of a day of a week, if the year has that week. Year 0 counts as one of 52
weeks, which lie in no month. -/
def ofWeek? (year week day : Nat) : Option (Nat × Nat × Nat) :=
  if week = 0 || (if year = 0 then 52 else weeksInYear year) < week then none
  else if day = 0 || 7 < day then none
  else if year = 0 then some (1, 0, day)
  else some (fieldsOfOrdinal (firstMonday year + (week - 1) * 7 + (day - 1)))

/-- Year, month and day of the date that `cs` holds; they need not make a date yet. -/
def readDate (cs : List Char) : Option (Nat × Nat × Nat) := do
  let (year, cs) ← readDigits 0 4 cs
  let hyphens := cs.head? = some '-'
  let cs := if hyphens then cs.drop 1 else cs
  match cs with
  | 'W' :: cs =>
    let (week, cs) ← readDigits 0 2 cs
    if cs = [] then return ← ofWeek? year week 1
    if hyphens && cs.head? ≠ some '-' then none
    let (day, _) ← readDigits 0 1 (if hyphens then cs.drop 1 else cs)
    ofWeek? year week day
  | cs =>
    let (month, cs) ← readDigits 0 2 cs
    if hyphens && cs.head? ≠ some '-' then none
    let (day, _) ← readDigits 0 2 (if hyphens then cs.drop 1 else cs)
    return (year, month, day)

/-! ## Time of day -/

/-- Hour, minute, second and microsecond as read, and whether nothing was left over. -/
structure TimeFields where
  hour : Nat := 0
  minute : Nat := 0
  second : Nat := 0
  microsecond : Nat := 0
  complete : Bool := true

/-- Nothing follows, or a NUL, which ends a text. -/
def isEnd (cs : List Char) : Bool := cs.head?.all (· = '\x00')

/-- The fraction of a second: up to six digits count, further ones are skipped. -/
def readFraction (t : TimeFields) (cs : List Char) : Option TimeFields := do
  let width := min 6 cs.length
  let (n, rest) ← readDigits 0 width cs
  let rest := rest.dropWhile Char.isDigit
  return { t with microsecond := n * Nat.pow 10 (6 - width), complete := isEnd rest }

/-- What follows a field of two digits. -/
inductive AfterField
  | stop (complete : Bool)
  | next (rest : List Char)
  | fraction (rest : List Char)

/-- Decides how to go on after the field number `i`. A point or comma starts the fraction after
any field. With colons a colon must stand between the fields, and one after the seconds starts
the fraction; without them the next field or the fraction follows at once. A single character at
the end is left over. -/
def afterField (i : Nat) (colons : Bool) : List Char → Option AfterField
  | [] => some (.stop true)
  | [c] => if c.toNat < 128 then some (.stop (c = '\x00')) else none
  | c :: cs =>
    let goOn := fun rest => if i = 2 then AfterField.fraction rest else .next rest
    if colons && c = ':' then some (goOn cs)
    else if c = '.' || c = ',' then some (.fraction cs)
    else if colons then none
    else some (goOn (c :: cs))

/-- Reads hour, minute, second and fraction, as far as they are there. -/
def readTime (cs : List Char) : Option TimeFields := do
  let (hour, cs) ← readDigits 0 2 cs
  let colons := cs.head? = some ':'
  match ← afterField 0 colons cs with
  | .stop complete => return { hour, complete }
  | .fraction cs => readFraction { hour } cs
  | .next cs =>
    let (minute, cs) ← readDigits 0 2 cs
    match ← afterField 1 colons cs with
    | .stop complete => return { hour, minute, complete }
    | .fraction cs => readFraction { hour, minute } cs
    | .next cs =>
      let (second, cs) ← readDigits 0 2 cs
      match ← afterField 2 colons cs with
      | .stop complete => return { hour, minute, second, complete }
      | .fraction cs => readFraction { hour, minute, second } cs
      | .next _ => none

/-- The offset in microseconds that the text after its sign writes. Below a second it counts as
none. -/
def readOffset (negative : Bool) (cs : List Char) : Option Int := do
  let t ← readTime cs
  guard t.complete
  let seconds := t.hour * 3600 + t.minute * 60 + t.second
  let microseconds := if seconds = 0 then 0 else seconds * 1000000 + t.microsecond
  return if negative then -(microseconds : Int) else microseconds

/-- Reads the time of day and the offset in microseconds. What stands between a complete time and
the sign of the offset is skipped. -/
def readTimeAndOffset (cs : List Char) : Option (TimeFields × Option Int) := do
  let isMark := fun c : Char => c = '+' || c = '-' || c = 'Z'
  let t ← readTime (cs.takeWhile (!isMark ·))
  match cs.dropWhile (!isMark ·) with
  | [] => if t.complete then some (t, none) else none
  | 'Z' :: rest => if isEnd rest then some (t, some 0) else none
  | mark :: rest => return (t, some (← readOffset (mark = '-') rest))

/-! ## The whole timestamp -/

/-- The timestamp with these fields, or the first field that is out of range. -/
def ofFields (date : Nat × Nat × Nat) (t : TimeFields) (offset : Option Int) :
    Except IsoFault Timestamp :=
  let (year, month, day) := date
  let checkedOffset : Except IsoFault (Option Offset) :=
    match offset with
    | none => .ok none
    | some n => if h : n.natAbs < dayLength then .ok (some ⟨n, h⟩) else .error (.offset n)
  match checkedOffset with
  | .error fault => .error fault
  | .ok offset =>
    if hd : IsDate year month day then
      if ht : IsTime t.hour t.minute t.second t.microsecond then
        .ok ⟨⟨year, month, day, hd⟩, ⟨t.hour, t.minute, t.second, t.microsecond, ht⟩, offset⟩
      else if 24 ≤ t.hour then .error .hour
      else if 60 ≤ t.minute then .error .minute
      else .error .second
    else if year < 1 || 9999 < year then .error (.year year)
    else if month < 1 || 12 < month then .error .month
    else .error .day

/-- Reads a timestamp. The character between date and time may be any. -/
def ofIso (s : String) : Except IsoFault Timestamp :=
  let cs := s.toList
  let fields : Option ((Nat × Nat × Nat) × TimeFields × Option Int) := do
    let n ← dateLength cs
    let date ← readDate (cs.take n)
    match cs.drop n with
    | [] => return (date, {}, none)
    | _ :: rest =>
      let (t, offset) ← readTimeAndOffset rest
      return (date, t, offset)
  match fields with
  | none => .error .malformed
  | some (date, t, offset) => ofFields date t offset

end LogLayout.Timestamp
