import LogLayout.Pattern.Field
import LogLayout.Proofs.Number.Accuracy

/-!
# The time since the start

The time of an entry since the start is counted in whole milliseconds, cut off toward zero. It is
computed with doubles by way of seconds, so it is not always the one that whole numbers give: the
reading that it is their quotient by a thousand fails at one second and one millisecond already
(`relativeMilliseconds_loses_one`). What is lost is never more than one millisecond, and within the
142 years around the start only a time of whole milliseconds loses one.

Results:
1. `natAbs_localMicroseconds_sub_lt`: how far two timestamps are apart at most.
2. `milliseconds_error`: the error of the two roundings.
3. `floor_milliseconds_near`, `floor_milliseconds_of_short`, `floor_milliseconds_of_seconds`: what
   is left of it after cutting off.
4. `relativeMilliseconds_off_by_one`: the time of an entry, and the text of its field.
-/

namespace LogLayout

open Number (nearest leastNormal)

/-! ## 1. How far timestamps are apart -/

namespace Timestamp

theorem daysInMonth_le (year month : Nat) : daysInMonth year month ≤ 31 := by
  have february : (if isLeap year then 29 else 28) ≤ 31 := by split <;> decide
  unfold daysInMonth
  split <;> first | exact february | decide

theorem daysBeforeMonth_le (year month : Nat) : daysBeforeMonth year month ≤ 31 * month := by
  induction month with
  | zero => exact le_rfl
  | succ month ih =>
    have := daysInMonth_le year month
    rw [daysBeforeMonth]
    omega

theorem ordinal_lt (d : Date) : d.ordinal < 3660000 := by
  obtain ⟨year, month, day, ⟨⟨-, years⟩, ⟨-, months⟩, -, days⟩⟩ := d
  have := daysInMonth_le year month
  have := daysBeforeMonth_le year month
  simp only [Date.ordinal, Date.dayOfYear, daysBeforeYear]
  omega

theorem sinceMidnight_lt (t : Time) : t.sinceMidnight < dayLength := by
  obtain ⟨hour, minute, second, microsecond, ⟨hours, minutes, seconds, microseconds⟩⟩ := t
  simp only [Time.sinceMidnight, dayLength]
  omega

/-- All of the calendar is less than `2 ^ 59` microseconds. -/
theorem natAbs_localMicroseconds_sub_lt (earlier later : Timestamp) :
    (later.localMicroseconds - earlier.localMicroseconds).natAbs < 2 ^ 59 := by
  have := ordinal_lt earlier.date
  have := ordinal_lt later.date
  have := sinceMidnight_lt earlier.time
  have := sinceMidnight_lt later.time
  simp only [localMicroseconds, dayLength] at *
  omega

/-! ## 2. The two roundings -/

/-- The milliseconds of microseconds before what follows the point is dropped: the seconds and then
their thousandfold are each rounded to a double. -/
def milliseconds (microseconds : Nat) : Number.Scaled := (nearest microseconds 1000000).times 1000

theorem leastNormal_le : leastNormal ≤ 1 / 2000000 := by
  calc leastNormal ≤ (2 : ℚ) ^ (-21 : ℤ) := zpow_le_zpow_right₀ (by norm_num) (by norm_num)
    _ ≤ 1 / 2000000 := by norm_num

theorem milliseconds_error {u : Nat} (something : u ≠ 0) :
    |(milliseconds u).value - u / 1000| ≤ u / 1000 * (2 / 2 ^ 53 + 1 / 2 ^ 106) := by
  have one : (1 : ℚ) ≤ u := by exact_mod_cast Nat.one_le_iff_ne_zero.2 something
  have normal := leastNormal_le
  have first : |(nearest u 1000000).value - u / (1000000 : Nat)| ≤ u / (1000000 : Nat) / 2 ^ 53 :=
    Number.nearest_error (by decide) (by push_cast; linarith)
  push_cast at first
  rw [abs_le] at first
  have second :
      |((nearest u 1000000).times 1000).value - (nearest u 1000000).value * (1000 : Nat)| ≤
        (nearest u 1000000).value * (1000 : Nat) / 2 ^ 53 :=
    Number.times_error (by push_cast; linarith)
  push_cast at second
  rw [abs_le] at second
  rw [abs_le, milliseconds]
  constructor <;> linarith

/-! ## 3. Cutting off -/

section
variable {u : Nat}

/-- The two sides between which the milliseconds are cut off, in whole milliseconds and their
rest. -/
theorem floor_milliseconds_between {error : ℚ}
    (near : |(milliseconds u).value - u / 1000| < error) :
    ((u / 1000 : Nat) : ℚ) + (u % 1000 : Nat) / 1000 - error < (milliseconds u).floor + 1 ∧
      ((milliseconds u).floor : ℚ) < (u / 1000 : Nat) + (u % 1000 : Nat) / 1000 + error := by
  have parts : (u : ℚ) = 1000 * (u / 1000 : Nat) + (u % 1000 : Nat) := by
    exact_mod_cast (Nat.div_add_mod u 1000).symm
  have least := Number.floor_le_value (milliseconds u)
  have most := Number.value_lt_floor_add_one (milliseconds u)
  rw [abs_lt] at near
  constructor <;> linarith

theorem rest_le (u : Nat) : ((u % 1000 : Nat) : ℚ) ≤ 999 := by
  exact_mod_cast Nat.le_of_lt_succ (Nat.mod_lt u (by decide))

theorem le_of_cast_lt_add_one {m n : Nat} (less : (m : ℚ) < n + 1) : m ≤ n :=
  Nat.lt_succ_iff.1 (by exact_mod_cast less)

theorem floor_milliseconds_zero : (milliseconds 0).floor = 0 := by decide +kernel

/-- Anywhere in the calendar the milliseconds are off by at most one. -/
theorem floor_milliseconds_near (bound : u < 2 ^ 59) :
    (milliseconds u).floor ≤ u / 1000 + 1 ∧ u / 1000 ≤ (milliseconds u).floor + 1 := by
  by_cases nothing : u = 0
  · subst nothing
    simp [floor_milliseconds_zero]
  · have few : (u : ℚ) < 2 ^ 59 := by exact_mod_cast bound
    have near : |(milliseconds u).value - u / 1000| < 1 := by
      refine (milliseconds_error nothing).trans_lt ?_
      linarith
    obtain ⟨above, below⟩ := floor_milliseconds_between near
    have rest := rest_le u
    have positive : (0 : ℚ) ≤ (u % 1000 : Nat) := Nat.cast_nonneg _
    constructor
    · exact le_of_cast_lt_add_one (by push_cast; linarith)
    · exact le_of_cast_lt_add_one (by push_cast; linarith)

/-- Below `2 ^ 52` microseconds the error is less than a microsecond, so only a time of whole
milliseconds is off, and that by one too few. -/
theorem floor_milliseconds_of_short (bound : u < 2 ^ 52) :
    (milliseconds u).floor = u / 1000 ∨
      1000 ∣ u ∧ (milliseconds u).floor + 1 = u / 1000 := by
  by_cases nothing : u = 0
  · subst nothing
    exact .inl floor_milliseconds_zero
  · have few : (u : ℚ) + 1 ≤ 2 ^ 52 := by exact_mod_cast bound
    have near : |(milliseconds u).value - u / 1000| < 1 / 1000 := by
      refine (milliseconds_error nothing).trans_lt ?_
      linarith
    obtain ⟨above, below⟩ := floor_milliseconds_between near
    have rest := rest_le u
    have atMost : (milliseconds u).floor ≤ u / 1000 := le_of_cast_lt_add_one (by linarith)
    by_cases whole : u % 1000 = 0
    · have atLeast : u / 1000 ≤ (milliseconds u).floor + 1 := by
        rw [whole] at above
        push_cast at above
        exact le_of_cast_lt_add_one (by push_cast; linarith)
      have := Nat.dvd_of_mod_eq_zero whole
      omega
    · have one : (1 : ℚ) ≤ (u % 1000 : Nat) := by
        exact_mod_cast Nat.one_le_iff_ne_zero.2 whole
      have atLeast : u / 1000 ≤ (milliseconds u).floor := le_of_cast_lt_add_one (by linarith)
      exact .inl (Nat.le_antisymm atMost atLeast)

/-- Whole seconds are not rounded. -/
theorem floor_milliseconds_of_seconds (bound : u < 2 ^ 59) (seconds : 1000000 ∣ u) :
    (milliseconds u).floor = u / 1000 := by
  obtain ⟨n, rfl⟩ := seconds
  have first : (nearest (1000000 * n) 1000000).value = n :=
    Number.nearest_of_whole (by decide) (by push_cast; field_simp) (by omega)
  have second : (milliseconds (1000000 * n)).value = (n * 1000 : Nat) :=
    Number.times_of_whole (by rw [first]; push_cast; rfl) (by omega)
  rw [Number.floor_eq, second, Nat.floor_natCast]
  omega

end

theorem millisecondsOf_eq (u : Int) :
    millisecondsOf u =
      if u < 0 then -((milliseconds u.natAbs).floor : Int) else (milliseconds u.natAbs).floor :=
  rfl

theorem tdiv_eq (u : Int) :
    u.tdiv 1000 = if u < 0 then -((u.natAbs / 1000 : Nat) : Int) else (u.natAbs / 1000 : Nat) := by
  split
  · next negative =>
    obtain ⟨m, rfl⟩ := Int.exists_eq_neg_ofNat negative.le
    rw [Int.neg_tdiv, Int.natAbs_neg, Int.natAbs_natCast]
    rfl
  · next positive =>
    obtain ⟨m, rfl⟩ := Int.eq_ofNat_of_zero_le (Int.not_lt.1 positive)
    rfl

/-- The milliseconds of microseconds of either sign against their quotient by a thousand. -/
theorem millisecondsOf_near {u : Int} (bound : u.natAbs < 2 ^ 59) :
    (millisecondsOf u - u.tdiv 1000).natAbs ≤ 1 ∧
      (u.natAbs < 2 ^ 52 → millisecondsOf u = u.tdiv 1000 ∨
        1000 ∣ u ∧ millisecondsOf u = u.tdiv 1000 - u.sign) ∧
      (1000000 ∣ u → millisecondsOf u = u.tdiv 1000) := by
  obtain ⟨atMost, atLeast⟩ := floor_milliseconds_near bound
  rw [millisecondsOf_eq, tdiv_eq]
  refine ⟨by split <;> omega, fun short => ?_, fun seconds => ?_⟩
  · rcases floor_milliseconds_of_short short with same | ⟨whole, less⟩
    · left
      rw [same]
    · right
      refine ⟨Int.natCast_dvd.2 whole, ?_⟩
      split
      · next negative =>
        rw [Int.sign_eq_neg_one_of_neg negative]
        omega
      · next positive =>
        rw [Int.sign_eq_one_of_pos (by omega)]
        omega
  · rw [floor_milliseconds_of_seconds bound (Int.natCast_dvd.1 seconds)]

end Timestamp

/-! ## 4. The time of an entry -/

namespace Entry

theorem relativeMilliseconds_eq {e : Entry} {start : Timestamp} (noOffset : start.offset = none)
    (noOffset' : e.timestamp.offset = none) :
    e.relativeMilliseconds start =
      .ok (Timestamp.millisecondsOf
        (e.timestamp.localMicroseconds - start.localMicroseconds)) := by
  simp only [relativeMilliseconds, Timestamp.microsecondsBetween?, noOffset, noOffset']

/-- The time of an entry since the start, and with it the text of its field, is there for any two
timestamps without an offset. It differs by at most one from the quotient of the microseconds by a
thousand, cut off toward zero; below `2 ^ 52` microseconds it differs only if they are whole
milliseconds, and then it is the next one toward zero; for whole seconds it does not differ. -/
theorem relativeMilliseconds_off_by_one {e : Entry} {start : Timestamp}
    (noOffset : start.offset = none) (noOffset' : e.timestamp.offset = none) :
    ∃ u n : Int, u = e.timestamp.localMicroseconds - start.localMicroseconds ∧
      e.relativeMilliseconds start = .ok n ∧
      (∀ environment option depth,
        Pattern.Field.relative.read option depth ⟨environment, start⟩ e = .ok (.str (toString n))) ∧
      (n - u.tdiv 1000).natAbs ≤ 1 ∧
      (u.natAbs < 2 ^ 52 → n = u.tdiv 1000 ∨ 1000 ∣ u ∧ n = u.tdiv 1000 - u.sign) ∧
      (1000000 ∣ u → n = u.tdiv 1000) := by
  have found := relativeMilliseconds_eq noOffset noOffset'
  have bound := Timestamp.natAbs_localMicroseconds_sub_lt start e.timestamp
  refine ⟨_, _, rfl, found, fun environment option depth => ?_, Timestamp.millisecondsOf_near bound⟩
  rw [Pattern.Field.read, found]
  rfl

theorem isTime_midnight : Timestamp.IsTime 0 0 0 0 := by decide

/-- New Year's midnight, when a program starts. -/
def newYear : Timestamp := ⟨⟨2024, 1, 1, by decide⟩, ⟨0, 0, 0, 0, isTime_midnight⟩, none⟩

/-- An entry one second and one millisecond later. -/
def soonAfter : Entry where
  level := .info
  message := ""
  timestamp := ⟨⟨2024, 1, 1, by decide⟩, ⟨0, 0, 1, 1000, by decide⟩, none⟩

theorem relativeMilliseconds_off_by_one_soonAfter :
    newYear.offset = none ∧ soonAfter.timestamp.offset = none ∧
      ∃ n : Int, soonAfter.relativeMilliseconds newYear = .ok n ∧ (n = 1001 ∨ n = 1000) := by
  obtain ⟨u, n, apart, found, -, -, short, -⟩ :=
    @relativeMilliseconds_off_by_one soonAfter newYear rfl rfl
  have exactly : u = 1001000 := apart.trans (by decide)
  refine ⟨rfl, rfl, n, found, ?_⟩
  rw [exactly] at short
  exact (short (by norm_num)).imp id And.right

/-- One second and one millisecond are counted as a thousand milliseconds. -/
theorem relativeMilliseconds_loses_one :
    newYear.offset = none ∧ soonAfter.timestamp.offset = none ∧
      soonAfter.timestamp.localMicroseconds - newYear.localMicroseconds = 1001000 ∧
      Int.tdiv 1001000 1000 = 1001 ∧ soonAfter.relativeMilliseconds newYear = .ok 1000 := by
  have counted : Timestamp.millisecondsOf 1001000 = 1000 := by decide +kernel
  have apart : soonAfter.timestamp.localMicroseconds - newYear.localMicroseconds = 1001000 := by
    decide
  refine ⟨rfl, rfl, apart, rfl, ?_⟩
  rw [relativeMilliseconds_eq rfl rfl, apart, counted]

end Entry

end LogLayout
