import LogLayout.Text.LetterCase
import LogLayout.Timestamp.Iso

/-!
# Timestamps by template

A template is text with directives: a percent sign, flags, a width, a modifier and a letter. Three
letters, for microseconds and offset, are put in first; the others follow the usual rules for
dates in templates, with English names. An unknown directive stays as it is.
-/

namespace LogLayout.Timestamp

/-! ## Names -/

/-- The days of the week from Sunday on. -/
def dayNames : List String :=
  ["Sunday", "Monday", "Tuesday", "Wednesday", "Thursday", "Friday", "Saturday"]

/-- The months of the year. -/
def monthNames : List String :=
  ["January", "February", "March", "April", "May", "June", "July", "August", "September",
   "October", "November", "December"]

/-- The name of the day of the week. -/
def dayName (t : Timestamp) : List Char := (dayNames.getD t.date.weekdayFromSunday "").toList

/-- The name of the month. -/
def monthName (t : Timestamp) : List Char := (monthNames.getD (t.date.month - 1) "").toList

/-! ## Microseconds and offset -/

/-- The offset without colons, or nothing. -/
def compactOffset (t : Timestamp) : List Char :=
  match t.offset with
  | none => []
  | some o => o.chars []

/-- The name of the time zone: `UTC` followed by the offset, if that is not zero. -/
def zoneName (t : Timestamp) : List Char :=
  match t.offset with
  | none => []
  | some o => "UTC".toList ++ if o.microseconds = 0 then [] else o.chars [':']

/-- Replaces the directives for microseconds, offset and zone. A percent sign protects the
character after it, and a NUL ends the template. -/
def fillClock (t : Timestamp) : List Char → List Char
  | [] => []
  | '%' :: 'f' :: cs => fixedDigits 6 t.time.microsecond ++ fillClock t cs
  | '%' :: 'z' :: cs => t.compactOffset ++ fillClock t cs
  | '%' :: 'Z' :: cs => t.zoneName ++ fillClock t cs
  | '%' :: c :: cs => if c = '\x00' then ['%'] else '%' :: c :: fillClock t cs
  | c :: cs => if c = '\x00' then [] else c :: fillClock t cs

/-! ## Fields -/

/-- What stands between the percent sign and the letter of a directive. -/
structure Style where
  /-- The last of the flags `_`, `-` and `0`. -/
  padding : Option Char := none
  /-- Flag `^`: capital letters. -/
  capitals : Bool := false
  /-- Flag `#`: the other case of letters. -/
  otherCase : Bool := false
  width : Option Nat := none
  deriving Repr, DecidableEq

/-- Text filled up on the left to the width of the style, with zeros or with spaces. -/
def Style.fill (s : Style) (cs : List Char) : List Char :=
  List.replicate (s.width.getD 0 - cs.length) (if s.padding = some '0' then '0' else ' ') ++ cs

/-- A word, in capitals if the style asks for them. -/
def Style.word (s : Style) (cs : List Char) : List Char :=
  s.fill (if s.capitals then cs.map Text.capital else cs)

/-- A number of at least `digits` digits, filled up with zeros unless the style says otherwise. -/
def Style.number (s : Style) (digits : Nat) (n : Int) : List Char :=
  let shown := Nat.toDigits 10 n.natAbs
  let signed := if n < 0 then '-' :: shown else shown
  let total := max digits (s.width.getD 0)
  match s.padding with
  | some '-' => s.fill signed
  | some '_' => List.replicate (total - signed.length) ' ' ++ signed
  | _ =>
    let zeros := List.replicate (total - signed.length) '0'
    if n < 0 then '-' :: zeros ++ shown else zeros ++ shown

/-- A number filled up with spaces unless the style says otherwise. -/
def Style.spacedNumber (s : Style) (digits : Nat) (n : Int) : List Char :=
  let keeps := s.padding = some '0' || s.padding = some '-'
  { s with padding := if keeps then s.padding else some '_' }.number digits n

/-- The hour on a clock of twelve hours. -/
def Time.hour12 (t : Time) : Nat := if t.hour % 12 = 0 then 12 else t.hour % 12

/-- Before or after noon. -/
def Time.halfDay (t : Time) : List Char := if t.hour < 12 then "AM".toList else "PM".toList

/-- The number of the week, weeks starting on the day that `weekday` counts as zero. -/
def weekOfYear (d : Date) (weekday : Nat) : Nat := (d.dayOfYear - 1 + 7 - weekday) / 7

/-- The seconds since 1970, by the local clock. -/
def epochSeconds (t : Timestamp) : Int :=
  (t.localMicroseconds - 719163 * dayLength).fdiv 1000000

/-- The template that a letter abbreviates, if it does. -/
def abbreviated? (c : Char) : Option String :=
  match c with
  | 'c' => some "%a %b %e %H:%M:%S %Y"
  | 'D' | 'x' => some "%m/%d/%y"
  | 'F' => some "%Y-%m-%d"
  | 'r' => some "%I:%M:%S %p"
  | 'R' => some "%H:%M"
  | 'T' | 'X' => some "%H:%M:%S"
  | _ => none

/-- The modifiers that a letter takes. -/
def takesModifier (modifier letter : Char) : Bool :=
  if modifier = 'E' then "cCnpPrRstTuxXyYzZ".toList.contains letter
  else "bBCdegGhHIjklmMnpPrRsStTuUVwWyzZ".toList.contains letter

/-- The style of the names, which the flag `#` turns to capitals. -/
def Style.name (s : Style) : Style := { s with capitals := s.capitals || s.otherCase }

/-- The style in which an unknown directive is copied. The names of months take no modifier `E`,
but turn to capitals before this is noticed. -/
def Style.copied (s : Style) (modifier letter : Option Char) : Style :=
  if modifier = some 'E' && letter.any ("bBh".toList.contains ·) then s.name else s

/-- The text of a directive that is no abbreviation; `none` for an unknown letter. -/
def field? (t : Timestamp) (s : Style) (letter : Char) : Option (List Char) :=
  let d := t.date
  let word := s.name
  match letter with
  | '%' => some (s.fill ['%'])
  | 'n' => some (s.fill ['\n'])
  | 't' => some (s.fill ['\t'])
  | 'a' => some (word.word (t.dayName.take 3))
  | 'A' => some (word.word t.dayName)
  | 'b' | 'h' => some (word.word (t.monthName.take 3))
  | 'B' => some (word.word t.monthName)
  | 'C' => some (s.number 1 (d.year / 100))
  | 'd' => some (s.number 2 d.day)
  | 'e' => some (s.spacedNumber 2 d.day)
  | 'g' => some (s.number 2 (d.week.1 % 100))
  | 'G' => some (s.number 1 d.week.1)
  | 'H' => some (s.number 2 t.time.hour)
  | 'I' => some (s.number 2 t.time.hour12)
  | 'j' => some (s.number 3 d.dayOfYear)
  | 'k' => some (s.spacedNumber 2 t.time.hour)
  | 'l' => some (s.spacedNumber 2 t.time.hour12)
  | 'm' => some (s.number 2 d.month)
  | 'M' => some (s.number 2 t.time.minute)
  | 'p' =>
    let half := if s.otherCase then t.time.halfDay.map Char.toLower else t.time.halfDay
    some ((if s.otherCase then { s with capitals := false } else s).word half)
  | 'P' => some ({ s with capitals := false }.word (t.time.halfDay.map Char.toLower))
  | 's' => some (s.fill (toString t.epochSeconds).toList)
  | 'S' => some (s.number 2 t.time.second)
  | 'u' => some (s.number 1 (d.weekday + 1))
  | 'U' => some (s.number 2 (weekOfYear d d.weekdayFromSunday))
  | 'V' => some (s.number 2 d.week.2)
  | 'w' => some (s.number 1 d.weekdayFromSunday)
  | 'W' => some (s.number 2 (weekOfYear d d.weekday))
  | 'y' => some (s.number 2 (d.year % 100))
  | 'Y' => some (s.number 1 d.year)
  | 'z' => some []
  | 'Z' => some (s.fill [])
  | _ => none

/-! ## Templates -/

/-- Reads the flags. -/
def readFlags (s : Style) : List Char → Style × List Char
  | '_' :: cs => readFlags { s with padding := some '_' } cs
  | '-' :: cs => readFlags { s with padding := some '-' } cs
  | '0' :: cs => readFlags { s with padding := some '0' } cs
  | '^' :: cs => readFlags { s with capitals := true } cs
  | '#' :: cs => readFlags { s with otherCase := true } cs
  | cs => (s, cs)

/-- Reads flags and width. -/
def readStyle (cs : List Char) : Style × List Char :=
  let (s, cs) := readFlags {} cs
  let digits := cs.takeWhile Char.isDigit
  let width := digits.foldl (fun n c => 10 * n + (c.toNat - '0'.toNat)) 0
  ({ s with width := if digits = [] then none else some width }, cs.dropWhile Char.isDigit)

/-- Reads a modifier. -/
def readModifier : List Char → Option Char × List Char
  | 'E' :: cs => (some 'E', cs)
  | 'O' :: cs => (some 'O', cs)
  | cs => (none, cs)

/-- The text of the directive whose part after the percent sign starts `cs`, and what follows it.
`sub` expands the template of an abbreviation. -/
def directive (sub : List Char → Option (List Char)) (limit : Nat) (t : Timestamp)
    (cs : List Char) : Option (List Char × List Char) :=
  let (s, afterStyle) := readStyle cs
  let (modifier, afterModifier) := readModifier afterStyle
  if limit ≤ s.width.getD 0 then none
  else
    let letter := afterModifier.head?
    let rest := afterModifier.drop 1
    let known := letter.filter fun c => modifier.all (takesModifier · c)
    let whole := if letter = some '%' then [] else cs.take (cs.length - rest.length)
    match known with
    | none => some ((s.copied modifier letter).word ('%' :: whole), rest)
    | some c =>
      match abbreviated? c with
      | some template => (sub template.toList).map fun text => (s.word text, rest)
      | none => some ((t.field? s c).getD (s.word ('%' :: whole)), rest)

/-- Expands a template. An abbreviation stands for a template without further abbreviations, so
two levels suffice; `fuel` bounds the number of directives. -/
def expand (sub : List Char → Option (List Char)) (limit : Nat) (t : Timestamp) :
    Nat → List Char → Option (List Char)
  | 0, cs => some cs
  | _ + 1, [] => some []
  | fuel + 1, '%' :: cs =>
    match directive sub limit t cs with
    | none => none
    | some (text, rest) => (expand sub limit t fuel rest).map (text ++ ·)
  | fuel + 1, c :: cs => (expand sub limit t fuel cs).map (c :: ·)

/-- The least of 1024, 2048, … that is at least `n`; fewer than `fuel` steps are made. -/
def roundUp (n : Nat) : Nat → Nat → Nat
  | size, 0 => size
  | size, fuel + 1 => if n ≤ size then size else roundUp n (2 * size) fuel

/-- The length that the text by a template of length `n` stays below. -/
def lengthLimit (n : Nat) : Nat := roundUp (256 * n) 1024 n

/-- The timestamp by a template; nothing if the text would be very much longer than that. -/
def format (t : Timestamp) (template : String) : String :=
  let filled := t.fillClock template.toList
  let limit := lengthLimit filled.length
  let plain := fun cs => expand (fun _ => none) limit t (cs.length + 1) cs
  match expand plain limit t (filled.length + 1) filled with
  | none => ""
  | some text => if text.length < limit then .ofList text else ""

end LogLayout.Timestamp
