import LogLayout.Setting.Substitution

/-!
# Texts without references

A text that holds no reference to a variable is not changed by replacing references. Braces alone
make no reference: a dollar sign stands in front of it and its name is not empty.

Results:
1. `readReference?_sound`: what is read as a reference is one.
2. `pieces_of_not_holdsReference`, `substitute_of_not_holdsReference`: a text without references.
-/

namespace LogLayout.Setting

/-! ## Definitions -/

/-- The characters are the name of a reference. -/
def IsName (name : List Char) : Prop := name ≠ [] ∧ '\x7d' ∉ name

/-- A reference stands somewhere in the text. -/
def HoldsReference (cs : List Char) : Prop :=
  ∃ before name after, cs = before ++ (Piece.reference name).text ++ after ∧ IsName name

/-! ## 1. Reading a reference -/

theorem readReference?_sound {cs name rest : List Char}
    (found : readReference? cs = some (name, rest)) :
    cs = (Piece.reference name).text ++ rest ∧ IsName name := by
  refine ⟨readReference?_text found, ?_⟩
  unfold readReference? at found
  split at found
  · next cs =>
    dsimp only at found
    split at found
    · exact absurd found (by simp)
    · simp only [Option.ite_none_left_eq_some, Option.some.injEq, Prod.mk.injEq] at found
      obtain ⟨nonempty, rfl, -⟩ := found
      refine ⟨by simpa using nonempty, fun closing => ?_⟩
      have free := List.all_eq_true.1 List.all_takeWhile _ closing
      exact absurd free (by simp)
  · exact absurd found (by simp)

/-! ## 2. Texts without references -/

theorem not_holdsReference_of_not_mem {cs : List Char} (free : '\x7b' ∉ cs) :
    ¬ HoldsReference cs := by
  rintro ⟨before, name, after, rfl, -⟩
  exact free (by simp [Piece.text])

theorem not_holdsReference_of_dollar_not_mem {cs : List Char} (free : '$' ∉ cs) :
    ¬ HoldsReference cs := by
  rintro ⟨before, name, after, rfl, -⟩
  exact free (by simp [Piece.text])

theorem pieces_of_not_holdsReference {cs : List Char} (none : ¬ HoldsReference cs) :
    pieces cs = cs.map .literal := by
  fun_induction pieces cs with
  | case1 cs name rest found =>
    obtain ⟨text, isName⟩ := readReference?_sound found
    exact absurd ⟨[], name, rest, text, isName⟩ none
  | case2 => rfl
  | case3 c cs _ ih =>
    rw [ih, List.map_cons]
    rintro ⟨before, name, after, rfl, isName⟩
    exact none ⟨c :: before, name, after, rfl, isName⟩

theorem substitute_of_not_holdsReference {s : String} (none : ¬ HoldsReference s.toList)
    (table : List (String × Value)) : substitute table s = s := by
  have copied (cs : List Char) : (cs.map Piece.literal).flatMap (·.value table) = cs := by
    induction cs with
    | nil => rfl
    | cons c cs ih => rw [List.map_cons, List.flatMap_cons, ih, Piece.value, List.singleton_append]
  rw [substitute, pieces_of_not_holdsReference none, copied, String.ofList_toList]

end LogLayout.Setting
