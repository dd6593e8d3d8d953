import LogLayout.Proofs.Pattern.Fitting

/-!
# Fitting a text twice

A text that was fitted may be fitted by the same rules again. Nothing happens to it as long as its
padding is not longer than the largest width. If it is, the second pass cuts into the spaces of the
first one: from the end where they stand, which the second padding makes good, or from the other
end, and then the text is lost behind its own padding.

Results:
1. `fit_fit_of_unbounded`, `fit_fit_of_le`: padding that is not cut.
2. `fit_fit_of_same_side`: padding that is cut on its own side.
3. `fit_fit_of_other_side`: a text that is lost.
4. `apply_settles_iff`: the rules under which fitting twice is fitting once.
-/

namespace LogLayout.Pattern.Width

variable {w : Width} {cs : List Char} {most : Nat}

/-! ## 1. Padding that is not cut -/

theorem atLeast_le_length_fit (w : Width) (cs : List Char) : w.atLeast ≤ (w.fit cs).length := by
  rw [length_fit]
  exact Nat.le_max_left _ _

theorem fit_fit_of_unbounded (unbounded : w.atMost = none) (cs : List Char) :
    w.fit (w.fit cs) = w.fit cs :=
  fit_eq_self (atLeast_le_length_fit w cs) (by simp [unbounded])

theorem fit_fit_of_le (bound : w.atMost = some most) (fits : w.atLeast ≤ most) (cs : List Char) :
    w.fit (w.fit cs) = w.fit cs := by
  refine fit_eq_self (atLeast_le_length_fit w cs) ?_
  rintro most' found
  rw [bound] at found
  cases found
  rw [length_fit, bound, Option.elim]
  omega

/-! ## 2. Padding that is cut on its own side -/

theorem length_trim_le (bound : w.atMost = some most) (cs : List Char) :
    (w.trim cs).length ≤ most := by
  rw [length_trim, bound, Option.elim]
  exact Nat.min_le_right _ _

/-- Some of the spaces may be there already. -/
theorem pad_of_padded {count : Nat} (fits : count + cs.length ≤ w.atLeast) :
    w.pad (if w.padLeft then List.replicate count ' ' ++ cs else cs ++ List.replicate count ' ') =
      w.pad cs := by
  have enough : w.atLeast - (count + cs.length) + count = w.atLeast - cs.length := by omega
  cases side : w.padLeft with
  | true =>
    simp only [pad, side, if_true, List.length_append, List.length_replicate, ← List.append_assoc,
      List.replicate_append_replicate, enough]
  | false =>
    simp only [pad, side, Bool.false_eq_true, if_false, List.length_append, List.length_replicate,
      List.append_assoc, List.replicate_append_replicate, Nat.add_comm cs.length,
      Nat.add_comm count (_ - _), enough]

/-- What is left of a padded text that is cut where its spaces stand. -/
theorem trim_pad_of_same_side (bound : w.atMost = some most) (tight : most < w.atLeast)
    (same : w.padLeft = w.trimLeft) (short : cs.length ≤ most) :
    w.trim (w.pad cs) = if w.padLeft then List.replicate (most - cs.length) ' ' ++ cs
      else cs ++ List.replicate (most - cs.length) ' ' := by
  have length : (w.pad cs).length = w.atLeast := by rw [length_pad]; omega
  rw [trim, bound]
  dsimp only
  rw [if_neg (by omega), length, ← same]
  cases side : w.padLeft with
  | true =>
    have dropped : w.atLeast - cs.length - (w.atLeast - most) = most - cs.length := by omega
    have front : w.atLeast - most ≤ w.atLeast - cs.length := by omega
    simp [pad, side, List.drop_append, dropped, Nat.sub_eq_zero_of_le front]
  | false =>
    have taken : min (most - cs.length) (w.atLeast - cs.length) = most - cs.length := by omega
    simp [pad, side, List.take_append, taken, List.take_of_length_le short]

theorem fit_fit_of_same_side (bound : w.atMost = some most) (tight : most < w.atLeast)
    (same : w.padLeft = w.trimLeft) (cs : List Char) : w.fit (w.fit cs) = w.fit cs := by
  have short := length_trim_le bound cs
  rw [fit, fit, trim_pad_of_same_side bound tight same short, pad_of_padded (by omega)]

/-- If nothing may be left of a text, all texts are fitted to the same one. -/
theorem fit_fit_of_zero (bound : w.atMost = some 0) (cs : List Char) :
    w.fit (w.fit cs) = w.fit cs := by
  have empty (ds : List Char) : w.trim ds = [] :=
    List.length_eq_zero_iff.1 (Nat.le_zero.1 (length_trim_le bound ds))
  rw [fit, fit, empty, empty]

/-! ## 3. Padding that is cut on the other side -/

/-- If there are enough spaces, nothing but spaces is left. -/
theorem trim_pad_of_other_side (bound : w.atMost = some most) (tight : most + cs.length ≤ w.atLeast)
    (something : cs ≠ []) (other : w.padLeft ≠ w.trimLeft) :
    w.trim (w.pad cs) = List.replicate most ' ' := by
  have nonempty : 0 < cs.length := List.length_pos_iff.2 something
  have length : (w.pad cs).length = w.atLeast := by rw [length_pad]; omega
  rw [trim, bound]
  dsimp only
  rw [if_neg (by omega), length]
  cases side : w.padLeft with
  | true =>
    have cut : w.trimLeft = false := by simpa [side] using other
    have taken : min most (w.atLeast - cs.length) = most := by omega
    have none : most - (w.atLeast - cs.length) = 0 := by omega
    simp [pad, side, cut, List.take_append, taken, none]
  | false =>
    have cut : w.trimLeft = true := by simpa [side] using other
    have all : cs.length ≤ w.atLeast - most := by omega
    have kept : w.atLeast - cs.length - (w.atLeast - most - cs.length) = most := by omega
    simp [pad, side, cut, List.drop_append, List.drop_eq_nil_of_le all, kept]

/-- A single character that is no space is lost. -/
theorem fit_fit_of_other_side (bound : w.atMost = some most) (something : most ≠ 0)
    (tight : most < w.atLeast) (other : w.padLeft ≠ w.trimLeft) :
    w.fit (w.fit ['x']) ≠ w.fit ['x'] := by
  have whole : w.trim ['x'] = ['x'] := trim_eq_self (by
    rintro most' found
    rw [bound] at found
    cases found
    exact Nat.pos_of_ne_zero something)
  have long : most + ['x'].length ≤ w.atLeast := tight
  have blank : w.fit (w.fit ['x']) = w.pad (List.replicate most ' ') := by
    rw [fit, fit, whole, trim_pad_of_other_side bound long (by simp) other]
  have visible : 'x' ∈ w.fit ['x'] := by
    rw [fit, whole, pad]
    split <;> simp
  have invisible : 'x' ∉ w.pad (List.replicate most ' ') := by
    rw [pad]
    split <;> simp [List.mem_replicate]
  intro same
  rw [← same, blank] at visible
  exact invisible visible

/-! ## 4. Rules that settle -/

theorem fit_fit_iff (w : Width) :
    (∀ cs, w.fit (w.fit cs) = w.fit cs) ↔
      w.atMost = none ∨ (∃ most, w.atMost = some most ∧ w.atLeast ≤ most) ∨ w.atMost = some 0 ∨
        w.padLeft = w.trimLeft := by
  constructor
  · intro settles
    cases bound : w.atMost with
    | none => exact .inl rfl
    | some most =>
      rcases Nat.lt_or_ge most w.atLeast with tight | fits
      · by_cases nothing : most = 0
        · exact .inr (.inr (.inl (by rw [nothing])))
        · by_cases same : w.padLeft = w.trimLeft
          · exact .inr (.inr (.inr same))
          · exact absurd (settles ['x']) (fit_fit_of_other_side bound nothing tight same)
      · exact .inr (.inl ⟨most, rfl, fits⟩)
  · rintro (unbounded | ⟨most, bound, fits⟩ | bound | same) cs
    · exact fit_fit_of_unbounded unbounded cs
    · exact fit_fit_of_le bound fits cs
    · exact fit_fit_of_zero bound cs
    · cases bound : w.atMost with
      | none => exact fit_fit_of_unbounded bound cs
      | some most =>
        rcases Nat.lt_or_ge most w.atLeast with tight | fits
        · exact fit_fit_of_same_side bound tight same cs
        · exact fit_fit_of_le bound fits cs

/-- Applying the rules to what they gave changes nothing, whatever the text, exactly if there is no
largest width, or the smallest one is not above it, or nothing may be left of a text, or the spaces
stand on the side where texts are cut. -/
theorem apply_settles_iff {w : Width} (narrow : w.atLeast < beyondTexts) :
    (∀ s, ∃ t, w.apply s = .ok t ∧ w.apply t = .ok t) ↔
      w.atMost = none ∨ (∃ most, w.atMost = some most ∧ w.atLeast ≤ most) ∨ w.atMost = some 0 ∨
        w.padLeft = w.trimLeft := by
  rw [← fit_fit_iff]
  constructor
  · intro settles cs
    obtain ⟨t, once, twice⟩ := settles (.ofList cs)
    rw [apply_narrow narrow, Except.ok.injEq] at once twice
    subst once
    simpa [← String.toList_inj] using twice
  · intro settles s
    refine ⟨.ofList (w.fit s.toList), apply_narrow narrow s, ?_⟩
    rw [apply_narrow narrow, String.toList_ofList, settles]

/-- Five characters at least and three at most: the column settles if it is cut where it is filled
up, and loses its text otherwise. -/
theorem apply_settles_narrowColumn :
    (5 < beyondTexts ∧
      ∀ s, ∃ t, (⟨5, true, some 3, true⟩ : Width).apply s = .ok t ∧
        (⟨5, true, some 3, true⟩ : Width).apply t = .ok t) ∧
    ¬ ∀ s, ∃ t, (⟨5, true, some 3, false⟩ : Width).apply s = .ok t ∧
        (⟨5, true, some 3, false⟩ : Width).apply t = .ok t := by
  have narrow : 5 < beyondTexts := by decide
  exact ⟨⟨narrow, (apply_settles_iff narrow).2 (by simp)⟩,
    fun settles => absurd ((apply_settles_iff narrow).1 settles) (by simp)⟩

end LogLayout.Pattern.Width
