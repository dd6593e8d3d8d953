import LogLayout.Timestamp.IsoReader
import Mathlib.Algebra.Group.Nat.Defs
import Mathlib.Data.Option.Basic

/-!
# Reading back the text of a timestamp

The text leaves out what is zero: the fraction of the second, the offset, the seconds of the offset.
The reader knows many more forms than that, and tells them apart by what stands at a few positions.
This module follows the reader over a text that was written.

Results:
1. `readDigits_fixedDigits`: a number in fixed width is read back, whatever follows it.
2. `dateLength_isoChars`, `readDate_isoChars`: the date.
3. `readTime_clock`, `readOffset_chars`: the time of day and the offset.
4. `ofIso_iso`: the whole timestamp, unless its offset is a fraction of a second.
-/

namespace LogLayout.Timestamp

/-! ## Definitions -/

/-- The offset is none at all or at least a second, one way or the other. -/
def Offset.IsReadable (o : Offset) : Prop :=
  o.microseconds = 0 ∨ 1000000 ≤ o.microseconds.natAbs

/-- The seconds of a clock and their fraction, both as far as they are written. -/
def secondsChars (withSeconds : Bool) (second microsecond : Nat) : List Char :=
  (if withSeconds then ':' :: fixedDigits 2 second else [])
    ++ (if microsecond = 0 then [] else '.' :: fixedDigits 6 microsecond)

/-- The clock of a time of day or of an offset. -/
def clockChars (hour minute : Nat) (withSeconds : Bool) (second microsecond : Nat) : List Char :=
  fixedDigits 2 hour ++ ':' :: (fixedDigits 2 minute
    ++ secondsChars withSeconds second microsecond)

/-- The sign in front of an offset. -/
def Offset.sign (o : Offset) : Char := if o.microseconds < 0 then '-' else '+'

/-- The clock of an offset without its sign. -/
def Offset.clock (o : Offset) : List Char :=
  let seconds := o.microseconds.natAbs / 1000000
  let fraction := o.microseconds.natAbs % 1000000
  clockChars (seconds / 3600) (seconds / 60 % 60) (!(seconds % 60 = 0 && fraction = 0))
    (seconds % 60) fraction

/-! ## 1. Numbers -/

theorem length_fixedDigits (width n : Nat) : (fixedDigits width n).length = width := by
  induction width generalizing n with
  | zero => rfl
  | succ width ih => simp [fixedDigits, ih]

theorem isDigit_of_mem_fixedDigits {width n : Nat} {c : Char} (member : c ∈ fixedDigits width n) :
    c.isDigit = true := by
  induction width generalizing n with
  | zero => simp [fixedDigits] at member
  | succ width ih =>
    rcases List.mem_append.1 member with front | last
    · exact ih front
    · rw [List.mem_singleton.1 last, Nat.isDigit_digitChar]
      exact decide_eq_true (Nat.mod_lt n (by decide))

/-- Digits are read one after the other. -/
theorem readDigits_of_all {digits : List Char} (all : ∀ c ∈ digits, c.isDigit = true) (n : Nat)
    (rest : List Char) :
    readDigits n digits.length (digits ++ rest) =
      some (digits.foldl (fun n c => 10 * n + (c.toNat - '0'.toNat)) n, rest) := by
  induction digits generalizing n with
  | nil => rfl
  | cons c digits ih =>
    rw [List.length_cons, List.cons_append, readDigits, if_pos (all c (by simp)),
      ih fun d member => all d (by simp [member])]
    rfl

theorem foldl_fixedDigits {width n : Nat} (fits : n < 10 ^ width) (start : Nat) :
    (fixedDigits width n).foldl (fun n c => 10 * n + (c.toNat - '0'.toNat)) start =
      start * 10 ^ width + n := by
  induction width generalizing n with
  | zero =>
    rw [Nat.pow_zero, Nat.lt_one_iff] at fits
    simp [fixedDigits, fits]
  | succ width ih =>
    have front : n / 10 < 10 ^ width := by
      rw [Nat.pow_succ] at fits
      omega
    have last : (n % 10).digitChar.toNat - '0'.toNat = n % 10 := by
      rw [Nat.toNat_digitChar_of_lt_ten (Nat.mod_lt n (by decide))]
      exact Nat.add_sub_cancel_left 48 (n % 10)
    simp only [fixedDigits, List.foldl_append, ih front, List.foldl_cons, List.foldl_nil, last]
    rw [Nat.pow_succ]
    have := Nat.div_add_mod n 10
    rw [Nat.mul_add, Nat.mul_left_comm, Nat.mul_comm 10 (10 ^ width)]
    omega

theorem readDigits_fixedDigits {width n : Nat} (fits : n < 10 ^ width) (rest : List Char) :
    readDigits 0 width (fixedDigits width n ++ rest) = some (n, rest) := by
  have all : ∀ c ∈ fixedDigits width n, c.isDigit = true := fun _ => isDigit_of_mem_fixedDigits
  have read := readDigits_of_all all 0 rest
  rw [length_fixedDigits, foldl_fixedDigits fits, Nat.zero_mul, Nat.zero_add] at read
  exact read

/-! ## 2. The date -/

theorem fixedDigits_two (n : Nat) : ∃ a b, fixedDigits 2 n = [a, b] ∧ a.isDigit = true := by
  refine ⟨_, _, rfl, ?_⟩
  have member : (n / 10 % 10).digitChar ∈ fixedDigits 2 n := by simp [fixedDigits]
  exact isDigit_of_mem_fixedDigits member

theorem fixedDigits_four (n : Nat) : ∃ a b c d, fixedDigits 4 n = [a, b, c, d] :=
  ⟨_, _, _, _, rfl⟩

theorem digit_ne {c d : Char} (digit : c.isDigit = true) (other : d.isDigit = false) : c ≠ d := by
  rintro rfl
  rw [digit] at other
  exact absurd other (by decide)

theorem length_isoChars (d : Date) : d.isoChars.length = 10 := by
  simp [Date.isoChars, length_fixedDigits]

theorem dateLength_isoChars (d : Date) (rest : List Char) :
    dateLength (d.isoChars ++ 'T' :: rest) = some 10 := by
  obtain ⟨y₁, y₂, y₃, y₄, year⟩ := fixedDigits_four d.year
  obtain ⟨m₁, m₂, month, digit⟩ := fixedDigits_two d.month
  obtain ⟨d₁, d₂, day, -⟩ := fixedDigits_two d.day
  have noWeek : m₁ ≠ 'W' := digit_ne digit (by decide)
  simp [dateLength, Date.isoChars, year, month, day, noWeek]

theorem readDate_isoChars (d : Date) : readDate d.isoChars = some (d.year, d.month, d.day) := by
  obtain ⟨year, month, day⟩ := d.isDate
  have monthLength : daysInMonth d.year d.month ≤ 31 := by
    unfold daysInMonth
    split <;> (try split) <;> omega
  obtain ⟨m₁, m₂, digits, digit⟩ := fixedDigits_two d.month
  have noWeek : m₁ ≠ 'W' := digit_ne digit (by decide)
  have readMonth (rest : List Char) : readDigits 0 2 (m₁ :: m₂ :: rest) = some (d.month, rest) := by
    have read := readDigits_fixedDigits (show d.month < 10 ^ 2 by omega) rest
    rwa [digits] at read
  have readDay : readDigits 0 2 (fixedDigits 2 d.day) = some (d.day, []) := by
    simpa using readDigits_fixedDigits (show d.day < 10 ^ 2 by omega) []
  have readYear := readDigits_fixedDigits (show d.year < 10 ^ 4 by omega)
  rw [readDate, Date.isoChars, List.append_assoc, readYear, digits]
  simp [readMonth, readDay, noWeek]

/-! ## 3. The time of day and the offset -/

/-- A colon after hour or minute leads on to the next field. -/
theorem afterField_colon {i n : Nat} (early : i ≠ 2) (rest : List Char) :
    afterField i true (':' :: (fixedDigits 2 n ++ rest)) =
      some (.next (fixedDigits 2 n ++ rest)) := by
  obtain ⟨a, b, digits, -⟩ := fixedDigits_two n
  rw [digits]
  simp [afterField, early]

theorem afterField_point (n : Nat) :
    afterField 2 true ('.' :: fixedDigits 6 n) = some (.fraction (fixedDigits 6 n)) := by
  cases digits : fixedDigits 6 n with
  | nil => simpa [digits] using length_fixedDigits 6 n
  | cons c cs => rfl

theorem readFraction_fixedDigits (t : TimeFields) {n : Nat} (fits : n < 1000000) :
    readFraction t (fixedDigits 6 n) = some { t with microsecond := n, complete := true } := by
  have read := readDigits_fixedDigits (show n < 10 ^ 6 from fits) []
  rw [List.append_nil] at read
  simp [readFraction, length_fixedDigits, read, isEnd]

theorem readTime_clock {hour minute second microsecond : Nat} {withSeconds : Bool}
    (time : IsTime hour minute second microsecond)
    (whole : withSeconds = false → second = 0 ∧ microsecond = 0) :
    readTime (clockChars hour minute withSeconds second microsecond) =
      some { hour, minute, second, microsecond } := by
  obtain ⟨hours, minutes, seconds, fraction⟩ := time
  have readHour := readDigits_fixedDigits (show hour < 10 ^ 2 by omega)
  have readMinute := readDigits_fixedDigits (show minute < 10 ^ 2 by omega)
  have readSecond := readDigits_fixedDigits (show second < 10 ^ 2 by omega)
  rw [readTime, clockChars, readHour]
  simp only [Option.bind_eq_bind, Option.bind_some, List.head?_cons, decide_true,
    afterField_colon (i := 0) (by decide), readMinute]
  cases withSeconds with
  | false =>
    obtain ⟨rfl, rfl⟩ := whole rfl
    rfl
  | true =>
    simp only [secondsChars, if_true, List.cons_append, afterField_colon (i := 1) (by decide),
      Option.bind_some, readSecond]
    by_cases none : microsecond = 0
    · subst none
      rfl
    · simp only [none, if_false, afterField_point, Option.bind_some,
        readFraction_fixedDigits _ fraction]

theorem timeChars_eq_clock (t : Time) :
    t.isoChars ++ t.fractionChars = clockChars t.hour t.minute true t.second t.microsecond := by
  simp [Time.isoChars, Time.fractionChars, clockChars, secondsChars]

theorem offsetChars_eq_clock (o : Offset) : o.chars [':'] = o.sign :: o.clock := by
  simp only [Offset.chars, Offset.sign, Offset.clock, clockChars, secondsChars]
  cases o.microseconds.natAbs / 1000000 % 60 = 0 && o.microseconds.natAbs % 1000000 = 0 <;>
    simp

theorem readOffset_clock {o : Offset} (readable : o.IsReadable) :
    readOffset (o.microseconds < 0) o.clock = some o.microseconds := by
  have day := o.isOffset
  rw [dayLength] at day
  have read : readTime o.clock = some
      { hour := o.microseconds.natAbs / 1000000 / 3600
        minute := o.microseconds.natAbs / 1000000 / 60 % 60
        second := o.microseconds.natAbs / 1000000 % 60
        microsecond := o.microseconds.natAbs % 1000000 } :=
    readTime_clock ⟨by omega, by omega, by omega, by omega⟩ (by simp)
  have total : o.microseconds.natAbs / 1000000 / 3600 * 3600
      + o.microseconds.natAbs / 1000000 / 60 % 60 * 60 + o.microseconds.natAbs / 1000000 % 60 =
        o.microseconds.natAbs / 1000000 := by omega
  simp only [readOffset, read, Option.bind_eq_bind, Option.bind_some, guard, if_true,
    decide_eq_true_eq, total]
  rw [Option.pure_def, Option.bind_some, Option.pure_def, Option.some.injEq]
  rcases readable with none | long
  · simp [none]
  · have seconds : o.microseconds.natAbs / 1000000 ≠ 0 := by omega
    rw [if_neg seconds, Nat.div_add_mod']
    split <;> omega

/-- No sign and no `Z` stands in a clock, so the offset starts where the first of them stands. -/
theorem not_mark_of_mem_clock {hour minute second microsecond : Nat} {withSeconds : Bool} {c : Char}
    (member : c ∈ clockChars hour minute withSeconds second microsecond) :
    c ≠ '+' ∧ c ≠ '-' ∧ c ≠ 'Z' := by
  have ofDigit {width n : Nat} (found : c ∈ fixedDigits width n) : c ≠ '+' ∧ c ≠ '-' ∧ c ≠ 'Z' :=
    have digit := isDigit_of_mem_fixedDigits found
    ⟨digit_ne digit (by decide), digit_ne digit (by decide), digit_ne digit (by decide)⟩
  have ofSeconds (found : c ∈ secondsChars withSeconds second microsecond) :
      c ≠ '+' ∧ c ≠ '-' ∧ c ≠ 'Z' := by
    rcases List.mem_append.1 found with seconds | fraction
    · split at seconds
      · rcases List.mem_cons.1 seconds with rfl | digits
        · decide
        · exact ofDigit digits
      · exact absurd seconds (by simp)
    · split at fraction
      · exact absurd fraction (by simp)
      · rcases List.mem_cons.1 fraction with rfl | digits
        · decide
        · exact ofDigit digits
  simp only [clockChars, List.mem_append, List.mem_cons] at member
  rcases member with hour | rfl | minute | seconds
  · exact ofDigit hour
  · decide
  · exact ofDigit minute
  · exact ofSeconds seconds

/-- The offset as it is found behind the time of day. -/
theorem readTimeAndOffset_clock {hour minute second microsecond : Nat}
    (time : IsTime hour minute second microsecond) {offset : Option Offset}
    (readable : ∀ o ∈ offset, o.IsReadable) :
    readTimeAndOffset (clockChars hour minute true second microsecond
        ++ (offset.map (Offset.chars [':'])).getD []) =
      some ({ hour, minute, second, microsecond }, offset.map (·.microseconds)) := by
  have plain : ∀ c ∈ clockChars hour minute true second microsecond,
      (!(decide (c = '+') || decide (c = '-') || decide (c = 'Z'))) = true := by
    intro c member
    obtain ⟨plus, minus, zulu⟩ := not_mark_of_mem_clock member
    simp [plus, minus, zulu]
  have read := readTime_clock time (fun none : true = false => absurd none (by decide))
  simp only [readTimeAndOffset, List.takeWhile_append_of_pos plain,
    List.dropWhile_append_of_pos plain]
  cases offset with
  | none => simp [read]
  | some o =>
    have offset := readOffset_clock (readable o rfl)
    simp only [Option.map_some, Option.getD_some, offsetChars_eq_clock, Offset.sign]
    by_cases negative : o.microseconds < 0
    · rw [decide_eq_true negative] at offset
      simp [negative, read, offset]
    · rw [decide_eq_false negative] at offset
      simp [negative, read, offset]

/-! ## 4. The whole timestamp -/

theorem toList_iso (t : Timestamp) :
    t.iso.toList = t.date.isoChars ++ 'T' :: (clockChars t.time.hour t.time.minute true t.time.second
      t.time.microsecond ++ (t.offset.map (Offset.chars [':'])).getD []) := by
  rw [← timeChars_eq_clock, iso, String.toList_ofList, offsetChars]
  cases t.offset <;> simp

/-- The fields of a timestamp make the timestamp again. -/
theorem ofFields_fields (t : Timestamp) :
    ofFields (t.date.year, t.date.month, t.date.day)
        { hour := t.time.hour, minute := t.time.minute, second := t.time.second
          microsecond := t.time.microsecond }
        (t.offset.map (·.microseconds)) = .ok t := by
  obtain ⟨⟨year, month, day, isDate⟩, ⟨hour, minute, second, microsecond, isTime⟩, offset⟩ := t
  cases offset with
  | none => simp [ofFields, isDate, isTime]
  | some o => simp [ofFields, isDate, isTime, o.isOffset]

theorem ofIso_iso {t : Timestamp} (readable : ∀ o ∈ t.offset, o.IsReadable) :
    ofIso t.iso = .ok t := by
  have length := length_isoChars t.date
  have fields := readTimeAndOffset_clock t.time.isTime readable
  simp only [ofIso, toList_iso, dateLength_isoChars, Option.bind_eq_bind, Option.bind_some]
  rw [List.take_left' length, List.drop_left' length, readDate_isoChars]
  simp only [Option.bind_some, fields, Option.pure_def, ofFields_fields]

end LogLayout.Timestamp
