import LogLayout.Proofs.Text.PlainNumeral
import LogLayout.Setting.Conversion

/-!
# Settings given as texts

What a setting stands for may be given as it is or as the text that writes it. This module says
which text that is, and that each conversion reads it back.

Results:
1. `isPlainNumeral_toString`: the text of a number counts as a number.
2. `toLevel_of_gives`, `toBoolean_of_gives`, `toInteger_of_gives`: the conversions.
-/

namespace LogLayout.Setting

/-! ## Definitions -/

/-- The setting `v` gives the value `x`: as it is, or else a level by its name, a truth value by its
word and a number in decimal digits, as many as are read. -/
inductive Gives : Value → Value → Prop
  | asItIs (x : Value) : Gives x x
  | name (l : Level) : Gives (.level l) (.str l.name)
  | word (b : Bool) : Gives (.bool b) (.str (if b then "True" else "False"))
  | digits {n : Int} : n.natAbs < 10 ^ Text.digitLimit → Gives (.int n) (.str (toString n))

theorem Gives.ne_null {x v : Value} (gives : Gives x v) (something : x ≠ .null) : v ≠ .null := by
  cases gives with
  | asItIs => exact something
  | name => simp
  | word => simp
  | digits => simp

/-! ## 1. Numbers -/

theorem mem_digits_of_isDigit {c : Char} (digit : c.isDigit = true) :
    c ∈ (List.range 10).map Nat.digitChar := by
  have bounds := Text.toNat_lt_of_isDigit digit
  refine List.mem_map.2 ⟨c.toNat - 48, List.mem_range.2 (by omega), ?_⟩
  rw [← Char.toNat_inj, Nat.toNat_digitChar_of_lt_ten (by omega)]
  omega

theorem not_isBlank_of_isDigit {c : Char} (digit : c.isDigit = true) : Text.isBlank c = false := by
  have all : ((List.range 10).map Nat.digitChar).all (!Text.isBlank ·) = true := by decide
  simpa using List.all_eq_true.1 all c (mem_digits_of_isDigit digit)

theorem digitValue?_isSome_of_isDigit {c : Char} (digit : c.isDigit = true) :
    (Text.digitValue? c).isSome = true := by
  have all :
      ((List.range 10).map Nat.digitChar).all (fun c => (Text.digitValue? c).isSome) = true := by
    decide
  exact List.all_eq_true.1 all c (mem_digits_of_isDigit digit)

theorem stripChars_eq_self {cs : List Char} (solid : ∀ c ∈ cs, Text.isBlank c = false) :
    Text.stripChars cs = cs := by
  have kept {ds : List Char} (solid : ∀ c ∈ ds, Text.isBlank c = false) :
      ds.dropWhile Text.isBlank = ds := by
    cases ds with
    | nil => rfl
    | cons d ds => rw [List.dropWhile_cons_of_neg (by simp [solid d])]
  rw [Text.stripChars, kept solid, kept fun c member => solid c (List.mem_reverse.1 member),
    List.reverse_reverse]

theorem isPlainNumeral_toString (n : Int) : isPlainNumeral (toString n) = true := by
  have all := Text.isDigit_of_mem_toDigits (n := n.natAbs)
  have nonempty : Nat.toDigits 10 n.natAbs ≠ [] := Nat.toDigits_ne_nil
  have values : (Nat.toDigits 10 n.natAbs).all (fun c => (Text.digitValue? c).isSome) = true :=
    List.all_eq_true.2 fun c member => digitValue?_isSome_of_isDigit (all c member)
  have solid : ∀ c ∈ (toString n).toList, Text.isBlank c = false := by
    intro c member
    rw [Text.toList_toString, Text.plainNumeral] at member
    split at member
    · rcases List.mem_cons.1 member with rfl | member
      · decide
      · exact not_isBlank_of_isDigit (all c member)
    · exact not_isBlank_of_isDigit (all c member)
  rw [isPlainNumeral, stripChars_eq_self solid, Text.toList_toString, Text.plainNumeral]
  obtain ⟨c, cs, digits⟩ := List.exists_cons_of_ne_nil nonempty
  rw [digits] at values all ⊢
  cases decide (n < 0) with
  | true => simpa using values
  | false =>
    have minus : c ≠ '-' := Text.ne_of_isDigit (all c (by simp)) (by decide)
    simpa [minus] using values

/-! ## 2. Conversions -/

theorem toLevel_str {s : String} {l : Level} (read : Level.ofText? s = some l) :
    toLevel (.str s) = .ok l := by
  unfold toLevel
  dsimp only
  rw [read]

theorem toBoolean_str {s : String} {b : Bool} (read : readBoolean? s = some b) :
    toBoolean (.str s) = .ok b := by
  unfold toBoolean
  dsimp only
  rw [read]

theorem toLevel_of_gives {l : Level} {v : Value} (gives : Gives (.level l) v) :
    toLevel v = .ok l := by
  cases gives with
  | asItIs => rfl
  | name => exact toLevel_str (by cases l <;> decide +kernel)

theorem toBoolean_of_gives {b : Bool} {v : Value} (gives : Gives (.bool b) v) :
    toBoolean v = .ok b := by
  cases gives with
  | asItIs => rfl
  | word => exact toBoolean_str (by cases b <;> decide +kernel)

/-- A quantity that is a level is taken for a number only if it is given as it is. -/
theorem toInteger_of_gives {q : Quantity} {v : Value} (gives : Gives q.value v)
    (number : ∀ l, q = .level l → v = .level l) : toInteger v = .ok q := by
  cases q with
  | level l => rw [number l rfl, toInteger]
  | number n =>
    cases gives with
    | asItIs => rfl
    | digits short =>
      have read := Text.readInteger_toString short
      rw [toInteger, if_pos (isPlainNumeral_toString n), read]

theorem toPositiveInteger_of_gives {q : Quantity} {v : Value} (gives : Gives q.value v)
    (number : ∀ l, q = .level l → v = .level l) (positive : 0 < q.toInt) :
    toPositiveInteger v = .ok q := by
  rw [toPositiveInteger, toInteger_of_gives gives number]
  exact if_neg (Int.not_le.2 positive)

end LogLayout.Setting
