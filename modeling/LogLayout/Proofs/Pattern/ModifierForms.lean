import LogLayout.Pattern.Modifiers
import LogLayout.Proofs.Pattern.Reading

/-!
# Forms of modifiers

Modifiers are well-formed if they are a numeral, a numeral after a point, or two numerals with a
point between them. This module describes the forms without the reader and shows that the reader
accepts exactly them.

Results:
1. `widthNumerals?_eq_some_iff`: the numerals that are read are those of which the modifiers are
   made.
2. `ofModifiers_eq_ok_iff`: how modifiers are taken, and that they are warned of exactly when they
   are there and have no form.
-/

namespace LogLayout.Pattern

/-! ## Definitions -/

/-- An optional minus and at least one digit. -/
def IsSignedNumeral (cs : List Char) : Prop :=
  ∃ digits, digits ≠ [] ∧ (∀ c ∈ digits, c.isDigit = true) ∧ (cs = digits ∨ cs = '-' :: digits)

/-- The modifiers with these numerals. -/
def modifiersText (least most : Option (List Char)) : List Char :=
  least.getD [] ++ most.elim [] ('.' :: ·)

/-- The modifiers are made of these numerals, of which there is at least one. -/
structure HasNumerals (modifiers : List Char) (least most : Option (List Char)) : Prop where
  text : modifiers = modifiersText least most
  first : ∀ cs ∈ least, IsSignedNumeral cs
  second : ∀ cs ∈ most, IsSignedNumeral cs
  present : least ≠ none ∨ most ≠ none

/-- The modifiers are of the form `A`, `A.B` or `.B` with numerals `A` and `B`. -/
def AreWellFormed (modifiers : List Char) : Prop := ∃ least most, HasNumerals modifiers least most

/-! ## Helpers -/

theorem isNumeral_iff {cs : List Char} : isNumeral cs = true ↔ IsSignedNumeral cs := by
  constructor
  · intro numeral
    simp only [isNumeral, Bool.and_eq_true, Bool.not_eq_true', List.isEmpty_eq_false_iff,
      List.all_eq_true] at numeral
    split at numeral
    · next minus =>
      obtain ⟨digits, rfl⟩ := List.head?_eq_some_iff.1 minus
      exact ⟨digits, numeral.1, numeral.2, .inr rfl⟩
    · exact ⟨cs, numeral.1, numeral.2, .inl rfl⟩
  · rintro ⟨digits, nonempty, all, rfl | rfl⟩
    · have noMinus : cs.head? ≠ some '-' := by
        intro minus
        exact absurd (all '-' (List.mem_of_head? minus)) (by decide)
      simp [isNumeral, noMinus, nonempty, List.all_eq_true.2 all]
    · simp [isNumeral, nonempty, List.all_eq_true.2 all]

theorem IsSignedNumeral.ne_nil {cs : List Char} (numeral : IsSignedNumeral cs) : cs ≠ [] := by
  obtain ⟨digits, nonempty, -, rfl | rfl⟩ := numeral
  · exact nonempty
  · simp

theorem IsSignedNumeral.no_point {cs : List Char} (numeral : IsSignedNumeral cs) : '.' ∉ cs := by
  obtain ⟨digits, -, all, rfl | rfl⟩ := numeral
  · exact fun point => absurd (all '.' point) (by decide)
  · intro point
    rcases List.mem_cons.1 point with minus | point
    · exact absurd minus (by decide)
    · exact absurd (all '.' point) (by decide)

theorem splitPoint_of_not_mem {cs : List Char} (h : '.' ∉ cs) : splitPoint cs = (cs, none) := by
  obtain ⟨-, dropped⟩ := takeWhile_ne_append [] h (by simp)
  rw [List.append_nil] at dropped
  rw [splitPoint, dropped]

theorem splitPoint_append {before after : List Char} (h : '.' ∉ before) :
    splitPoint (before ++ '.' :: after) = (before, some after) := by
  obtain ⟨taken, dropped⟩ := takeWhile_ne_append ('.' :: after) h (by simp)
  rw [splitPoint, dropped, taken]

theorem splitPoint_modifiersText {least most : Option (List Char)}
    (numeral : ∀ cs ∈ least, IsSignedNumeral cs) :
    splitPoint (modifiersText least most) = (least.getD [], most) := by
  have noPoint : '.' ∉ least.getD [] := by
    cases least with
    | none => simp
    | some cs => exact (numeral cs rfl).no_point
  cases most with
  | none => simpa [modifiersText] using splitPoint_of_not_mem noPoint
  | some cs => exact splitPoint_append noPoint

theorem splitPoint_text (cs : List Char) :
    cs = (splitPoint cs).1 ++ (splitPoint cs).2.elim [] ('.' :: ·) := by
  by_cases point : '.' ∈ cs
  · obtain ⟨before, after, rfl, free⟩ := List.eq_append_cons_of_mem point
    rw [splitPoint_append free]
    rfl
  · simp [splitPoint_of_not_mem point]

theorem dropFinalNewline_of_modifiers {modifiers : List Char}
    (h : ∀ c ∈ modifiers, isModifierChar c = true) : dropFinalNewline modifiers = modifiers := by
  rw [dropFinalNewline, if_neg]
  intro newline
  exact absurd (h '\n' (List.mem_of_getLast? newline)) (by decide)

/-! ## 1. Reading the numerals -/

theorem widthNumerals?_eq_some_iff {modifiers : List Char} {least most : Option (List Char)}
    (chars : ∀ c ∈ modifiers, isModifierChar c = true) :
    widthNumerals? modifiers = some (least, most) ↔ HasNumerals modifiers least most := by
  rw [widthNumerals?, dropFinalNewline_of_modifiers chars]
  constructor
  · intro read
    have text := splitPoint_text modifiers
    rcases parts : splitPoint modifiers with ⟨before, after⟩
    rw [parts] at read text
    cases before with
    | nil =>
      cases after with
      | none => simp at read
      | some second =>
        simp only [Option.ite_none_right_eq_some, Option.some.injEq, Prod.mk.injEq] at read
        obtain ⟨numeral, rfl, rfl⟩ := read
        exact ⟨text, by simp, by simpa using isNumeral_iff.1 numeral, by simp⟩
    | cons c first =>
      cases after with
      | none =>
        simp only [Option.ite_none_right_eq_some, Option.some.injEq, Prod.mk.injEq] at read
        obtain ⟨numeral, rfl, rfl⟩ := read
        exact ⟨text, by simpa using isNumeral_iff.1 numeral, by simp, by simp⟩
      | some second =>
        simp only [Option.ite_none_right_eq_some, Option.some.injEq, Prod.mk.injEq,
          Bool.and_eq_true] at read
        obtain ⟨numerals, rfl, rfl⟩ := read
        exact ⟨text, by simpa using isNumeral_iff.1 numerals.1,
          by simpa using isNumeral_iff.1 numerals.2, by simp⟩
  · rintro ⟨rfl, first, second, present⟩
    rw [splitPoint_modifiersText first]
    cases least with
    | none =>
      cases most with
      | none => simp at present
      | some b => simp [isNumeral_iff.2 (second b rfl)]
    | some a =>
      obtain ⟨c, cs, rfl⟩ := List.exists_cons_of_ne_nil (first a rfl).ne_nil
      cases most with
      | none => simp [isNumeral_iff.2 (first _ rfl)]
      | some b => simp [isNumeral_iff.2 (first _ rfl), isNumeral_iff.2 (second b rfl)]

theorem widthNumerals?_eq_none_iff {modifiers : List Char}
    (chars : ∀ c ∈ modifiers, isModifierChar c = true) :
    widthNumerals? modifiers = none ↔ ¬ AreWellFormed modifiers := by
  rw [Option.eq_none_iff_forall_not_mem]
  constructor
  · rintro missing ⟨least, most, numerals⟩
    exact missing (least, most) ((widthNumerals?_eq_some_iff chars).2 numerals)
  · rintro malformed ⟨least, most⟩ read
    exact malformed ⟨least, most, (widthNumerals?_eq_some_iff chars).1 read⟩

/-! ## 2. The warning -/

/-- How modifiers are taken: the width rules and the warnings that they give. Whether their
numerals are read is left to `Width.ofModifiers`. -/
inductive ModifiersTaken (modifiers : List Char) : Width → List Warning → Prop
  | absent : modifiers = [] → ModifiersTaken modifiers {} []
  | malformed : modifiers ≠ [] → ¬ AreWellFormed modifiers →
      ModifiersTaken modifiers {} [.modifiers (.ofList modifiers)]
  | wellFormed {least most : Option (List Char)} {n k : Int} :
      HasNumerals modifiers least most → widthNumber least = .ok n → widthNumber most = .ok k →
      ModifiersTaken modifiers (.ofNumbers n k) []

theorem HasNumerals.ne_nil {modifiers : List Char} {least most : Option (List Char)}
    (numerals : HasNumerals modifiers least most) : modifiers ≠ [] := by
  obtain ⟨rfl, first, second, present⟩ := numerals
  cases least with
  | none => cases most <;> simp_all [modifiersText]
  | some a => simp [modifiersText, (first a rfl).ne_nil]

theorem ofModifiers_eq_ok_iff {modifiers : List Char} {width : Width} {warnings : List Warning}
    (chars : ∀ c ∈ modifiers, isModifierChar c = true) :
    Width.ofModifiers modifiers = .ok (width, warnings) ↔
      ModifiersTaken modifiers width warnings := by
  constructor
  · intro taken
    rw [Width.ofModifiers] at taken
    split at taken
    · next empty =>
      cases taken
      exact .absent (List.isEmpty_iff.1 empty)
    · next present =>
      rw [List.isEmpty_iff] at present
      split at taken
      · next missing =>
        cases taken
        exact .malformed present ((widthNumerals?_eq_none_iff chars).1 missing)
      · next least most read =>
        have numerals := (widthNumerals?_eq_some_iff chars).1 read
        cases first : widthNumber least with
        | error fault => simp [first, bind, Except.bind] at taken
        | ok n =>
          cases second : widthNumber most with
          | error fault => simp [first, second, bind, Except.bind] at taken
          | ok k =>
            simp only [first, second, bind, Except.bind, pure, Except.pure, Except.ok.injEq,
              Prod.mk.injEq] at taken
            obtain ⟨rfl, rfl⟩ := taken
            exact .wellFormed numerals first second
  · intro taken
    cases taken with
    | absent empty => simp [Width.ofModifiers, empty]
    | malformed present malformed =>
      simp [Width.ofModifiers, present, (widthNumerals?_eq_none_iff chars).2 malformed]
    | wellFormed numerals first second =>
      simp [Width.ofModifiers, numerals.ne_nil, (widthNumerals?_eq_some_iff chars).2 numerals,
        first, second, bind, Except.bind, pure, Except.pure]

end LogLayout.Pattern
