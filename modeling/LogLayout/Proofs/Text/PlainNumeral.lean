import LogLayout.Text.Numeral
import Mathlib.Algebra.Group.Nat.Defs
import Mathlib.Data.List.TakeWhile

/-!
# Plain numerals

Among the texts that are read as whole numbers the plain ones are ASCII digits with an optional
minus in front. Such a text has one value, and nothing but the number of its digits keeps it from
being read.

Results:
1. `isDigitRun_of_all`, `foldNumeralChar_of_isDigit`: digits stay as they are.
2. `readInteger_plain`: what reading a plain numeral comes to.
3. `readInteger_toString`: a number is read back from its plain numeral.
-/

namespace LogLayout.Text

/-! ## Definitions -/

/-- The number that ASCII digits write. -/
def decimalValue (digits : List Char) : Nat := ofDigits (digits.map fun c => c.toNat - '0'.toNat)

/-- The plain numeral with these digits. -/
def plainNumeral (negative : Bool) (digits : List Char) : List Char :=
  if negative then '-' :: digits else digits

/-! ## 1. Digits -/

theorem toNat_lt_of_isDigit {c : Char} (digit : c.isDigit = true) :
    48 ≤ c.toNat ∧ c.toNat < 58 := by
  simp only [Char.isDigit, Bool.and_eq_true, decide_eq_true_eq, ge_iff_le,
    UInt32.le_iff_toNat_le] at digit
  change 48 ≤ c.toNat ∧ c.toNat ≤ 57 at digit
  omega

theorem foldNumeralChar_of_isDigit {c : Char} (digit : c.isDigit = true) :
    foldNumeralChar c = c := by
  have bounds := toNat_lt_of_isDigit digit
  rw [foldNumeralChar, if_pos (by omega)]

theorem ne_of_isDigit {c d : Char} (digit : c.isDigit = true) (other : d.isDigit = false) :
    c ≠ d := by
  rintro rfl
  rw [digit] at other
  exact absurd other (by decide)

theorem isDigitRun_of_all {digits : List Char} (nonempty : digits ≠ [])
    (all : ∀ c ∈ digits, c.isDigit = true) : isDigitRun digits = true := by
  induction digits with
  | nil => exact absurd rfl nonempty
  | cons c cs ih =>
    have first : c.isDigit = true := all c (by simp)
    cases cs with
    | nil => exact first
    | cons d cs =>
      have underscore : d ≠ '_' := ne_of_isDigit (all d (by simp)) (by decide)
      rw [isDigitRun, first, ih (by simp) fun c member => all c (by simp [member])]
      · rfl
      · rintro e es rfl
        exact absurd rfl underscore

theorem foldNumeralChars_plain {negative : Bool} {digits : List Char}
    (all : ∀ c ∈ digits, c.isDigit = true) :
    (plainNumeral negative digits).map foldNumeralChar = plainNumeral negative digits := by
  have same : digits.map foldNumeralChar = digits := by
    rw [List.map_congr_left fun c member => foldNumeralChar_of_isDigit (all c member)]
    simp
  cases negative with
  | false => exact same
  | true =>
    show foldNumeralChar '-' :: digits.map foldNumeralChar = '-' :: digits
    rw [same]
    rfl

theorem dropWhile_plain {negative : Bool} {digits : List Char} (nonempty : digits ≠ [])
    (all : ∀ c ∈ digits, c.isDigit = true) :
    (plainNumeral negative digits).dropWhile isNumeralSpace = plainNumeral negative digits := by
  cases negative with
  | true => rfl
  | false =>
    obtain ⟨c, cs, rfl⟩ := List.exists_cons_of_ne_nil nonempty
    have bounds := toNat_lt_of_isDigit (all c (by simp))
    have space : c ≠ ' ' := ne_of_isDigit (all c (by simp)) (by decide)
    have solid : isNumeralSpace c = false := by
      simp only [isNumeralSpace, space, decide_false, Bool.false_or, Bool.and_eq_false_iff,
        decide_eq_false_iff_not]
      omega
    show (c :: cs).dropWhile isNumeralSpace = c :: cs
    rw [List.dropWhile_cons_of_neg (by simp [solid])]

theorem takeSign_plain {negative : Bool} {digits : List Char} (nonempty : digits ≠ [])
    (all : ∀ c ∈ digits, c.isDigit = true) :
    takeSign (plainNumeral negative digits) = (negative, digits) := by
  cases negative with
  | true => rfl
  | false =>
    obtain ⟨c, cs, rfl⟩ := List.exists_cons_of_ne_nil nonempty
    have minus : c ≠ '-' := ne_of_isDigit (all c (by simp)) (by decide)
    have plus : c ≠ '+' := ne_of_isDigit (all c (by simp)) (by decide)
    show takeSign (c :: cs) = (false, c :: cs)
    unfold takeSign
    split
    · next found => exact absurd (List.cons.inj found).1 minus
    · next found => exact absurd (List.cons.inj found).1 plus
    · rfl

/-! ## 2. Reading -/

theorem readInteger_plain {negative : Bool} {digits : List Char} (nonempty : digits ≠ [])
    (all : ∀ c ∈ digits, c.isDigit = true) :
    readInteger (.ofList (plainNumeral negative digits)) =
      if digitLimit < digits.length then .error (.tooManyDigits digits.length)
      else .ok (if negative then -(decimalValue digits : Int) else decimalValue digits) := by
  have inRun : ∀ c ∈ digits, (c.isDigit || decide (c = '_')) = true := by
    intro c member
    rw [all c member, Bool.true_or]
  have run : digits.takeWhile (fun c => c.isDigit || decide (c = '_')) = digits :=
    List.takeWhile_eq_self_iff.2 inRun
  have rest : digits.dropWhile (fun c => c.isDigit || decide (c = '_')) = [] :=
    List.dropWhile_eq_nil_iff.2 inRun
  have kept : digits.filter Char.isDigit = digits := List.filter_eq_self.2 all
  simp only [readInteger, String.toList_ofList, foldNumeralChars_plain all,
    dropWhile_plain nonempty all, takeSign_plain nonempty all, run, rest, kept,
    isDigitRun_of_all nonempty all, Bool.not_true, Bool.false_eq_true, if_false, List.all_nil,
    decimalValue]

/-! ## 3. Written numbers -/

theorem decimalValue_toDigits (n : Nat) : decimalValue (Nat.toDigits 10 n) = n := by
  rw [decimalValue, ofDigits, List.foldl_map]
  exact Nat.ofDigitChars_toDigits (by decide) (by decide)

theorem isDigit_of_mem_toDigits {n : Nat} : ∀ c ∈ Nat.toDigits 10 n, c.isDigit = true :=
  fun _ member => Nat.isDigit_of_mem_toDigits (by decide) (by decide) member

theorem toList_toString (n : Int) :
    (toString n).toList = plainNumeral (n < 0) (Nat.toDigits 10 n.natAbs) := by
  rw [Int.toString_eq_repr, Int.repr_eq_if, plainNumeral]
  by_cases negative : n < 0
  · rw [if_neg (by omega), String.toList_append, Nat.toList_repr]
    simp [negative, show (-n).toNat = n.natAbs by omega]
  · rw [if_pos (by omega), Nat.toList_repr]
    simp [negative, show n.toNat = n.natAbs by omega]

theorem readInteger_toString {n : Int} (short : n.natAbs < 10 ^ digitLimit) :
    readInteger (toString n) = .ok n := by
  have length : ¬ digitLimit < (Nat.toDigits 10 n.natAbs).length :=
    Nat.not_lt.2 ((Nat.length_toDigits_le_iff (by decide) (by decide)).2 short)
  rw [← String.ofList_toList (s := toString n), toList_toString,
    readInteger_plain Nat.toDigits_ne_nil isDigit_of_mem_toDigits, if_neg length,
    decimalValue_toDigits]
  by_cases negative : n < 0
  · simp only [negative, decide_true, if_true]
    congr 1
    omega
  · simp only [negative, decide_false, Bool.false_eq_true, if_false]
    congr 1
    omega

end LogLayout.Text
