import LogLayout.Proofs.Pattern.Stopping
import Mathlib.Data.Nat.Digits.Defs

/-!
# Width rules and the modifiers that write them

Modifiers with a form give the width rules that their numbers ask for, and different modifiers may
give the same rules: a zero stands for no width however it is written, and zeros in front do not
count. Each width rule that can be written has one canonical text, and those that can be written
are told by a few conditions on their fields.

Results:
1. `Writes.widthNumber`: the number of a numeral is read, as far as its digits go.
2. `exists_isOutcome`: what becomes of any modifiers.
3. `isCanonical_ofModifiers`, `ofModifiers_canonicalText`: the rules that come from modifiers, and
   their texts.
4. `ofModifiers_exact`: all of it.
-/

namespace LogLayout.Pattern

/-! ## Definitions -/

/-- The number that a row of decimal digits writes: from the last digit on, each one counts ten
times as much as the one before. -/
def positional (digits : List Char) : Nat :=
  Nat.ofDigits 10 (digits.reverse.map fun c => c.toNat - '0'.toNat)

/-- The numeral writes the number: its digits, and a minus in front of them for a negative one. -/
def Writes (numeral : List Char) (n : Int) : Prop :=
  ∃ digits, digits ≠ [] ∧ (∀ c ∈ digits, c.isDigit = true) ∧
    (numeral = digits ∧ n = positional digits ∨ numeral = '-' :: digits ∧ n = -positional digits)

/-- The same for a numeral that may be left out, which is as good as a zero. -/
def WritesPart : Option (List Char) → Int → Prop
  | none, n => n = 0
  | some numeral, n => Writes numeral n

/-- The numerals of the modifiers, if they have a form, are not too long to be read. -/
def HasShortNumerals (modifiers : List Char) : Prop :=
  ∀ least most, HasNumerals modifiers least most →
    ∀ numeral, (least = some numeral ∨ most = some numeral) →
      (digitsOf numeral).length ≤ Text.digitLimit

/-- The rules are the ones that the two numbers ask for. Zero asks for no width. -/
structure Width.IsAskedFor (w : Width) (least most : Int) : Prop where
  atLeast : w.atLeast = least.natAbs
  padLeft : w.padLeft = false ↔ least < 0
  atMost : w.atMost = if most = 0 then none else some most.natAbs
  trimLeft : w.trimLeft = true ↔ most < 0

/-- What modifiers come to: their form decides about the warning, their numbers about the rules. -/
structure IsOutcome (modifiers : List Char) (width : Width) (warnings : List Warning) : Prop where
  silent : warnings = [] ↔ modifiers = [] ∨ AreWellFormed modifiers
  absent : modifiers = [] → width = {}
  malformed : modifiers ≠ [] → ¬ AreWellFormed modifiers →
    width = {} ∧ ∃ warning, warnings = [warning] ∧ warning.message =
      "Invalid modifier in conversion pattern: [" ++ .ofList modifiers ++ "]. Ignoring modifier."
  written : ∀ least most n k, HasNumerals modifiers least most → WritesPart least n →
    WritesPart most k → width.IsAskedFor n k

/-- The rules that modifiers can write: a side is only chosen for a width that is there, and no
text is cut to nothing. -/
structure Width.IsCanonical (w : Width) : Prop where
  padLeft : w.atLeast = 0 → w.padLeft = true
  positive : w.atMost ≠ some 0
  trimLeft : w.atMost = none → w.trimLeft = false

/-- Neither width has more digits than are read. -/
def Width.IsShort (w : Width) : Prop :=
  ∀ n, (w.atLeast = n ∨ w.atMost = some n) → n < 10 ^ Text.digitLimit

/-- The numeral of the smallest width, if there is one. -/
def Width.leastNumeral (w : Width) : Option (List Char) :=
  if w.atLeast = 0 then none else some (Text.plainNumeral (!w.padLeft) (Nat.toDigits 10 w.atLeast))

/-- The numeral of the largest width, if there is one. -/
def Width.mostNumeral (w : Width) : Option (List Char) :=
  w.atMost.map fun n => Text.plainNumeral w.trimLeft (Nat.toDigits 10 n)

/-- The modifiers for the rules: no numeral for a width that is not there, and no zero in front. -/
def Width.canonicalText (w : Width) : List Char := modifiersText w.leastNumeral w.mostNumeral

/-! ## 1. Numerals and numbers -/

theorem decimalValue_eq_positional (digits : List Char) :
    Text.decimalValue digits = positional digits := by
  rw [positional, List.map_reverse, Nat.ofDigits_eq_foldr, List.foldr_reverse]
  simp only [Text.decimalValue, Text.ofDigits, Nat.cast_id, Nat.add_comm]

theorem positional_lt {digits : List Char} (all : ∀ c ∈ digits, c.isDigit = true) :
    positional digits < 10 ^ digits.length := by
  have small : ∀ d ∈ digits.reverse.map (fun c => c.toNat - '0'.toNat), d < 10 := by
    intro d member
    obtain ⟨c, found, rfl⟩ := List.mem_map.1 member
    have bounds := Text.toNat_lt_of_isDigit (all c (List.mem_reverse.1 found))
    show c.toNat - 48 < 10
    omega
  simpa [positional] using Nat.ofDigits_lt_base_pow_length (by decide) small

theorem digitsOf_plainNumeral {negative : Bool} {digits : List Char}
    (all : ∀ c ∈ digits, c.isDigit = true) :
    digitsOf (Text.plainNumeral negative digits) = digits := by
  have kept : digits.filter Char.isDigit = digits := List.filter_eq_self.2 all
  cases negative with
  | false => exact kept
  | true =>
    show ('-' :: digits).filter Char.isDigit = digits
    rw [List.filter_cons_of_neg (by decide), kept]

theorem writes_iff {numeral : List Char} {n : Int} :
    Writes numeral n ↔ ∃ negative digits, digits ≠ [] ∧ (∀ c ∈ digits, c.isDigit = true) ∧
      numeral = Text.plainNumeral negative digits ∧
      n = if negative then -(positional digits : Int) else positional digits := by
  constructor
  · rintro ⟨digits, nonempty, all, ⟨rfl, rfl⟩ | ⟨rfl, rfl⟩⟩
    · exact ⟨false, _, nonempty, all, rfl, rfl⟩
    · exact ⟨true, _, nonempty, all, rfl, rfl⟩
  · rintro ⟨negative, digits, nonempty, all, rfl, rfl⟩
    cases negative with
    | false => exact ⟨_, nonempty, all, .inl ⟨rfl, rfl⟩⟩
    | true => exact ⟨_, nonempty, all, .inr ⟨rfl, rfl⟩⟩

theorem Writes.isSignedNumeral {numeral : List Char} {n : Int} (writes : Writes numeral n) :
    IsSignedNumeral numeral := by
  obtain ⟨digits, nonempty, all, ⟨same, -⟩ | ⟨same, -⟩⟩ := writes
  · exact ⟨digits, nonempty, all, .inl same⟩
  · exact ⟨digits, nonempty, all, .inr same⟩

theorem IsSignedNumeral.exists_writes {numeral : List Char} (signed : IsSignedNumeral numeral) :
    ∃ n, Writes numeral n := by
  obtain ⟨digits, nonempty, all, same | same⟩ := signed
  · exact ⟨_, digits, nonempty, all, .inl ⟨same, rfl⟩⟩
  · exact ⟨_, digits, nonempty, all, .inr ⟨same, rfl⟩⟩

theorem Writes.widthNumber {numeral : List Char} {n : Int} (writes : Writes numeral n)
    (short : (digitsOf numeral).length ≤ Text.digitLimit) :
    widthNumber (some numeral) = .ok n := by
  obtain ⟨negative, digits, nonempty, all, rfl, rfl⟩ := writes_iff.1 writes
  rw [digitsOf_plainNumeral all] at short
  rw [Pattern.widthNumber, Text.readInteger_plain nonempty all, if_neg (Nat.not_lt.2 short),
    decimalValue_eq_positional]

theorem WritesPart.widthNumber {part : Option (List Char)} {n : Int} (writes : WritesPart part n)
    (short : ∀ numeral, part = some numeral → (digitsOf numeral).length ≤ Text.digitLimit) :
    widthNumber part = .ok n := by
  cases part with
  | none =>
    cases writes
    rfl
  | some numeral => exact Writes.widthNumber writes (short numeral rfl)

theorem exists_writesPart {part : Option (List Char)}
    (signed : ∀ numeral ∈ part, IsSignedNumeral numeral) : ∃ n, WritesPart part n := by
  cases part with
  | none => exact ⟨0, rfl⟩
  | some numeral => exact (signed numeral rfl).exists_writes

theorem WritesPart.natAbs_lt {part : Option (List Char)} {n : Int} (writes : WritesPart part n)
    (short : ∀ numeral, part = some numeral → (digitsOf numeral).length ≤ Text.digitLimit) :
    n.natAbs < 10 ^ Text.digitLimit := by
  cases part with
  | none =>
    cases writes
    exact Nat.pow_pos (by decide)
  | some numeral =>
    obtain ⟨negative, digits, -, all, rfl, rfl⟩ := writes_iff.1 writes
    have few := short _ rfl
    rw [digitsOf_plainNumeral all] at few
    have value : (if negative then -(positional digits : Int) else positional digits).natAbs =
        positional digits := by
      cases negative <;> simp
    rw [value]
    exact lt_of_lt_of_le (positional_lt all) (Nat.pow_le_pow_right (by decide) few)

/-! ## 2. What becomes of modifiers -/

/-- The modifiers are not longer than the longest numeral that is read. -/
theorem hasShortNumerals_of_length {modifiers : List Char}
    (few : modifiers.length ≤ Text.digitLimit) : HasShortNumerals modifiers := by
  rintro least most ⟨rfl, -, -, -⟩ numeral place
  have part : numeral.length ≤ (modifiersText least most).length := by
    rcases place with rfl | rfl
    · simp [modifiersText]
    · simp [modifiersText]
      omega
  exact (List.length_filter_le _ numeral).trans (part.trans few)

theorem isAskedFor_ofNumbers (least most : Int) :
    (Width.ofNumbers least most).IsAskedFor least most where
  atLeast := rfl
  padLeft := by simp [Width.ofNumbers]
  atMost := rfl
  trimLeft := by simp [Width.ofNumbers]

theorem ofModifiers_of_writesPart {modifiers : List Char} {least most : Option (List Char)}
    {n k : Int} (chars : ∀ c ∈ modifiers, isModifierChar c = true)
    (short : HasShortNumerals modifiers) (numerals : HasNumerals modifiers least most)
    (first : WritesPart least n) (second : WritesPart most k) :
    Width.ofModifiers modifiers = .ok (.ofNumbers n k, []) := by
  have fits := short least most numerals
  exact (ofModifiers_eq_ok_iff chars).2 (.wellFormed numerals
    (first.widthNumber fun numeral place => fits numeral (.inl place))
    (second.widthNumber fun numeral place => fits numeral (.inr place)))

theorem exists_isOutcome {modifiers : List Char}
    (chars : ∀ c ∈ modifiers, isModifierChar c = true) (short : HasShortNumerals modifiers) :
    ∃ width warnings, Width.ofModifiers modifiers = .ok (width, warnings) ∧
      IsOutcome modifiers width warnings := by
  by_cases empty : modifiers = []
  · refine ⟨{}, [], (ofModifiers_eq_ok_iff chars).2 (.absent empty), ?_⟩
    refine ⟨by simp [empty], fun _ => rfl, fun present => absurd empty present, ?_⟩
    exact fun least most n k numerals _ _ => absurd empty numerals.ne_nil
  · by_cases form : AreWellFormed modifiers
    · obtain ⟨least, most, numerals⟩ := form
      obtain ⟨n, first⟩ := exists_writesPart numerals.first
      obtain ⟨k, second⟩ := exists_writesPart numerals.second
      have taken := ofModifiers_of_writesPart chars short numerals first second
      refine ⟨_, _, taken, ?_⟩
      refine ⟨by simp [show AreWellFormed modifiers from ⟨least, most, numerals⟩],
        fun absent => absurd absent empty,
        fun _ malformed => absurd ⟨least, most, numerals⟩ malformed, ?_⟩
      -- The parts may be given otherwise, but reading them gives the same rules.
      intro least' most' n' k' numerals' first' second'
      have again := ofModifiers_of_writesPart chars short numerals' first' second'
      rw [taken, Except.ok.injEq, Prod.mk.injEq] at again
      rw [again.1]
      exact isAskedFor_ofNumbers n' k'
    · refine ⟨{}, _, (ofModifiers_eq_ok_iff chars).2 (.malformed empty form), ?_⟩
      refine ⟨by simp [empty, form], fun absent => absurd absent empty,
        fun _ _ => ⟨rfl, _, rfl, rfl⟩, ?_⟩
      exact fun least most n k numerals _ _ => absurd ⟨least, most, numerals⟩ form

/-! ## 3. The rules that can be written -/

theorem isCanonical_default : ({} : Width).IsCanonical where
  padLeft := fun _ => rfl
  positive := by simp
  trimLeft := fun _ => rfl

theorem isCanonical_ofNumbers (n k : Int) : (Width.ofNumbers n k).IsCanonical where
  padLeft := by
    intro none
    have : n = 0 := Int.natAbs_eq_zero.1 none
    simp [Width.ofNumbers, this]
  positive := by simp [Width.ofNumbers]
  trimLeft := by
    intro none
    have : k = 0 := by simpa [Width.ofNumbers] using none
    simp [Width.ofNumbers, this]

theorem isCanonical_ofModifiers {modifiers : List Char} {width : Width} {warnings : List Warning}
    (chars : ∀ c ∈ modifiers, isModifierChar c = true) (short : HasShortNumerals modifiers)
    (taken : Width.ofModifiers modifiers = .ok (width, warnings)) :
    width.IsCanonical ∧ width.IsShort := by
  have nothing : ({} : Width).IsShort := by
    rintro n (rfl | found)
    · exact Nat.pow_pos (by decide)
    · exact absurd found (by simp)
  cases (ofModifiers_eq_ok_iff chars).1 taken with
  | absent _ => exact ⟨isCanonical_default, nothing⟩
  | malformed _ _ => exact ⟨isCanonical_default, nothing⟩
  | @wellFormed least most n k numerals _ _ =>
    have fits := short least most numerals
    obtain ⟨a, first⟩ := exists_writesPart numerals.first
    obtain ⟨b, second⟩ := exists_writesPart numerals.second
    rw [ofModifiers_of_writesPart chars short numerals first second, Except.ok.injEq,
      Prod.mk.injEq] at taken
    rw [← taken.1]
    refine ⟨isCanonical_ofNumbers a b, ?_⟩
    rintro w (rfl | found)
    · exact first.natAbs_lt fun numeral place => fits numeral (.inl place)
    · have same : b.natAbs = w := by
        simp only [Width.ofNumbers, Option.ite_none_left_eq_some, Option.some.injEq] at found
        exact found.2
      rw [← same]
      exact second.natAbs_lt fun numeral place => fits numeral (.inr place)

theorem writes_plainNumeral (negative : Bool) (n : Nat) :
    Writes (Text.plainNumeral negative (Nat.toDigits 10 n))
      (if negative then -(n : Int) else n) := by
  refine writes_iff.2 ⟨negative, _, Nat.toDigits_ne_nil, Text.isDigit_of_mem_toDigits, rfl, ?_⟩
  rw [← decimalValue_eq_positional, Text.decimalValue_toDigits]

theorem writesPart_leastNumeral {w : Width} (canonical : w.IsCanonical) :
    ∃ n, WritesPart w.leastNumeral n ∧ n.natAbs = w.atLeast ∧ decide (0 ≤ n) = w.padLeft := by
  by_cases none : w.atLeast = 0
  · refine ⟨0, by simp [Width.leastNumeral, none, WritesPart], by simp [none], ?_⟩
    rw [canonical.padLeft none]
    rfl
  · refine ⟨if w.padLeft then w.atLeast else -w.atLeast, ?_, ?_, ?_⟩
    · have writes := writes_plainNumeral (!w.padLeft) w.atLeast
      cases side : w.padLeft <;> simpa [Width.leastNumeral, none, WritesPart, side] using writes
    · cases w.padLeft <;> simp
    · cases w.padLeft
      · simp
        omega
      · simp

theorem writesPart_mostNumeral {w : Width} (canonical : w.IsCanonical) :
    ∃ k, WritesPart w.mostNumeral k ∧ (if k = 0 then none else some k.natAbs) = w.atMost ∧
      decide (k < 0) = w.trimLeft := by
  cases most : w.atMost with
  | none =>
    refine ⟨0, by simp [Width.mostNumeral, most, WritesPart], by simp, ?_⟩
    rw [canonical.trimLeft most]
    rfl
  | some n =>
    have positive : n ≠ 0 := by
      rintro rfl
      exact canonical.positive most
    refine ⟨if w.trimLeft then -n else n, ?_, ?_, ?_⟩
    · have writes := writes_plainNumeral w.trimLeft n
      simpa [Width.mostNumeral, most, WritesPart] using writes
    · cases w.trimLeft <;> simp [positive]
    · cases w.trimLeft
      · simp
      · simp
        omega

theorem HasNumerals.isModifierChar {modifiers : List Char} {least most : Option (List Char)}
    (numerals : HasNumerals modifiers least most) : ∀ c ∈ modifiers, isModifierChar c = true := by
  have part {numeral : Option (List Char)} (signed : ∀ cs ∈ numeral, IsSignedNumeral cs) :
      ∀ cs ∈ numeral, ∀ c ∈ cs, Pattern.isModifierChar c = true := by
    intro cs found c member
    obtain ⟨digits, -, all, rfl | rfl⟩ := signed cs found
    · simp [Pattern.isModifierChar, all c member]
    · rcases List.mem_cons.1 member with rfl | member
      · rfl
      · simp [Pattern.isModifierChar, all c member]
  obtain ⟨rfl, first, second, -⟩ := numerals
  intro c member
  rcases List.mem_append.1 member with before | after
  · cases least with
    | none => exact absurd before (by simp)
    | some cs => exact part first cs rfl c before
  · cases most with
    | none => exact absurd after (by simp)
    | some cs =>
      rcases List.mem_cons.1 after with rfl | after
      · rfl
      · exact part second cs rfl c after

/-- The rules are the default ones, or their text has a numeral. -/
theorem hasNumerals_canonicalText {w : Width} (canonical : w.IsCanonical) :
    w = {} ∧ w.canonicalText = [] ∨
      HasNumerals w.canonicalText w.leastNumeral w.mostNumeral := by
  have signed {part : Option (List Char)} {n : Int} (writes : WritesPart part n) :
      ∀ cs ∈ part, IsSignedNumeral cs := by
    rintro cs rfl
    exact Writes.isSignedNumeral writes
  obtain ⟨n, first, -⟩ := writesPart_leastNumeral canonical
  obtain ⟨k, second, -⟩ := writesPart_mostNumeral canonical
  by_cases present : w.leastNumeral ≠ none ∨ w.mostNumeral ≠ none
  · exact .inr ⟨rfl, signed first, signed second, present⟩
  · simp only [ne_eq, not_or, not_not] at present
    have noLeast : w.atLeast = 0 := by simpa [Width.leastNumeral] using present.1
    have noMost : w.atMost = none := by simpa [Width.mostNumeral] using present.2
    refine .inl ⟨?_, by simp [Width.canonicalText, present, modifiersText]⟩
    obtain ⟨atLeast, padLeft, atMost, trimLeft⟩ := w
    cases noLeast
    cases noMost
    cases canonical.padLeft rfl
    cases canonical.trimLeft rfl
    rfl

theorem length_digitsOf_numeral {negative : Bool} {n : Nat} (short : n < 10 ^ Text.digitLimit) :
    (digitsOf (Text.plainNumeral negative (Nat.toDigits 10 n))).length ≤ Text.digitLimit := by
  rw [digitsOf_plainNumeral Text.isDigit_of_mem_toDigits]
  exact (Nat.length_toDigits_le_iff (by decide) (by decide)).2 short

theorem hasShortNumerals_canonicalText {w : Width} (canonical : w.IsCanonical)
    (short : w.IsShort) : HasShortNumerals w.canonicalText := by
  intro least most numerals
  rcases hasNumerals_canonicalText canonical with ⟨-, empty⟩ | own
  · exact absurd empty numerals.ne_nil
  · obtain ⟨rfl, rfl⟩ := own.eq own.isModifierChar numerals
    rintro numeral (least | most)
    · simp only [Width.leastNumeral, Option.ite_none_left_eq_some, Option.some.injEq] at least
      obtain ⟨-, rfl⟩ := least
      exact length_digitsOf_numeral (short _ (.inl rfl))
    · obtain ⟨n, found, rfl⟩ := Option.map_eq_some_iff.1 most
      exact length_digitsOf_numeral (short n (.inr found))

/-- Rules that can be written are given by their own text, without a warning. -/
theorem ofModifiers_canonicalText {w : Width} (canonical : w.IsCanonical) (short : w.IsShort) :
    Width.ofModifiers w.canonicalText = .ok (w, []) := by
  rcases hasNumerals_canonicalText canonical with ⟨rfl, empty⟩ | numerals
  · rw [empty]
    rfl
  · obtain ⟨n, first, least, padLeft⟩ := writesPart_leastNumeral canonical
    obtain ⟨k, second, most, trimLeft⟩ := writesPart_mostNumeral canonical
    rw [ofModifiers_of_writesPart numerals.isModifierChar
      (hasShortNumerals_canonicalText canonical short) numerals first second]
    obtain ⟨atLeast, padLeft', atMost, trimLeft'⟩ := w
    rw [Width.ofNumbers, least, padLeft, most, trimLeft]

theorem isModifierChar_canonicalText {w : Width} (canonical : w.IsCanonical) :
    ∀ c ∈ w.canonicalText, isModifierChar c = true := by
  rcases hasNumerals_canonicalText canonical with ⟨-, empty⟩ | numerals
  · simp [empty]
  · exact numerals.isModifierChar

/-! ## 4. Modifiers and rules -/

/-- Modifiers with numerals that can be read are always taken, with one warning exactly if they are
there and have no form, and their numbers make the rules. The rules that come from modifiers are
exactly those that can be written, and each of these comes from its own text. -/
theorem ofModifiers_exact :
    (∀ modifiers, (∀ c ∈ modifiers, isModifierChar c = true) → HasShortNumerals modifiers →
      ∃ width warnings, Width.ofModifiers modifiers = .ok (width, warnings) ∧
        IsOutcome modifiers width warnings) ∧
    (∀ width : Width,
      (∃ modifiers warnings, (∀ c ∈ modifiers, isModifierChar c = true) ∧
        HasShortNumerals modifiers ∧ Width.ofModifiers modifiers = .ok (width, warnings)) ↔
      width.IsCanonical ∧ width.IsShort) ∧
    ∀ width : Width, width.IsCanonical → width.IsShort →
      Width.ofModifiers width.canonicalText = .ok (width, []) := by
  refine ⟨fun modifiers chars short => exists_isOutcome chars short, fun width => ⟨?_, ?_⟩,
    fun width canonical short => ofModifiers_canonicalText canonical short⟩
  · rintro ⟨modifiers, warnings, chars, short, taken⟩
    exact isCanonical_ofModifiers chars short taken
  · rintro ⟨canonical, short⟩
    exact ⟨width.canonicalText, [], isModifierChar_canonicalText canonical,
      hasShortNumerals_canonicalText canonical short, ofModifiers_canonicalText canonical short⟩

/-- The rules for a narrow column: at least five characters from the left on, and the last ten of a
long text. -/
def narrowColumn : Width := ⟨5, false, some 10, true⟩

theorem ofModifiers_exact_narrowColumn :
    (∀ c ∈ "-05.-10".toList, isModifierChar c = true) ∧ HasShortNumerals "-05.-10".toList ∧
      (∃ width warnings, Width.ofModifiers "-05.-10".toList = .ok (width, warnings) ∧
        IsOutcome "-05.-10".toList width warnings) ∧
      narrowColumn.IsCanonical ∧ narrowColumn.IsShort ∧
      narrowColumn.canonicalText = "-5.-10".toList ∧
      Width.ofModifiers "-5.-10".toList = .ok (narrowColumn, []) := by
  have chars : ∀ c ∈ "-05.-10".toList, isModifierChar c = true :=
    List.all_eq_true.1 (by decide)
  have short : HasShortNumerals "-05.-10".toList :=
    hasShortNumerals_of_length (show 7 ≤ 4300 by decide)
  have canonical : narrowColumn.IsCanonical := ⟨by decide, by decide, by decide⟩
  have narrow : narrowColumn.IsShort := by
    have hundred : 10 ^ 2 ≤ 10 ^ Text.digitLimit := Nat.pow_le_pow_right (by decide) (by decide)
    rintro n (rfl | found)
    · exact lt_of_lt_of_le (by decide) hundred
    · cases found
      exact lt_of_lt_of_le (by decide) hundred
  have text : narrowColumn.canonicalText = "-5.-10".toList := by decide +kernel
  obtain ⟨taken, -, written⟩ := ofModifiers_exact
  exact ⟨chars, short, taken _ chars short, canonical, narrow, text,
    text ▸ written narrowColumn canonical narrow⟩

end LogLayout.Pattern
