import LogLayout.Fault

/-!
# Width rules

A field is fitted into its line in two steps: text above the largest width is cut at one end, text
below the smallest is filled up with spaces at one end. Main statements: `length_trim`,
`length_pad`, and `apply_eq`, fitting fails only for a padding that no text can have.
-/

namespace LogLayout.Pattern

/-- How the text of a field is fitted into the line. -/
structure Width where
  atLeast : Nat := 0
  /-- Whether the spaces stand on the left. -/
  padLeft : Bool := true
  /-- The largest width, if there is one. -/
  atMost : Option Nat := none
  /-- Whether the characters on the left are the ones to go. -/
  trimLeft : Bool := false
  deriving Repr, DecidableEq, Inhabited

namespace Width

/-- Whether neither width is set. -/
def isDefault (w : Width) : Bool := w.atLeast = 0 && w.atMost.isNone

/-- The rules with these widths, neither of which may be negative. -/
def ofIntegers (atLeast : Int) (padLeft : Bool) (atMost : Option Int) (trimLeft : Bool) :
    Except Fault Width :=
  if atLeast < 0 then .error .negativeMin
  else if atMost.any (· < 0) then .error .negativeMax
  else .ok ⟨atLeast.toNat, padLeft, atMost.map Int.toNat, trimLeft⟩

/-- Cuts the text to the largest width. -/
def trim (w : Width) (cs : List Char) : List Char :=
  match w.atMost with
  | none => cs
  | some most =>
    if cs.length ≤ most then cs
    else if w.trimLeft then cs.drop (cs.length - most)
    else cs.take most

/-- Fills the text up to the smallest width. -/
def pad (w : Width) (cs : List Char) : List Char :=
  let spaces := List.replicate (w.atLeast - cs.length) ' '
  if w.padLeft then spaces ++ cs else cs ++ spaces

/-- The text cut and then filled up. -/
def fit (w : Width) (cs : List Char) : List Char := w.pad (w.trim cs)

/-- The widths that no text has. -/
def beyondTexts : Nat := Nat.pow 2 63

/-- Fits a text, unless it would have to be filled up to a width that no text has. -/
def apply (w : Width) (s : String) : Except Fault String :=
  let cs := w.trim s.toList
  if cs.length < w.atLeast && beyondTexts ≤ w.atLeast then .error .padding
  else .ok (.ofList (w.pad cs))

/-- The rules written out. -/
def text (w : Width) : String :=
  let most := match w.atMost with
    | none => "unbounded"
    | some n => toString n
  "FormattingInfo(min=" ++ toString w.atLeast ++ ", pad_left=" ++ Value.boolText w.padLeft
    ++ ", max=" ++ most ++ ", trim_left=" ++ Value.boolText w.trimLeft ++ ")"

/-! ## Laws -/

theorem length_trim (w : Width) (cs : List Char) :
    (w.trim cs).length = w.atMost.elim cs.length (min cs.length) := by
  unfold trim
  cases w.atMost with
  | none => rfl
  | some most =>
    simp only [Option.elim]
    split
    · omega
    · split
      · rw [List.length_drop]; omega
      · rw [List.length_take]; omega

theorem length_pad (w : Width) (cs : List Char) :
    (w.pad cs).length = max w.atLeast cs.length := by
  simp only [pad]
  split <;> simp only [List.length_append, List.length_replicate] <;> omega

theorem pad_eq_self (w : Width) {cs : List Char} (h : w.atLeast ≤ cs.length) : w.pad cs = cs := by
  simp [pad, Nat.sub_eq_zero_of_le h]

theorem apply_eq (w : Width) (s : String) :
    w.apply s =
      if (w.trim s.toList).length < w.atLeast ∧ beyondTexts ≤ w.atLeast then .error .padding
      else .ok (.ofList (w.fit s.toList)) := by
  simp [apply, fit]

end Width

end LogLayout.Pattern
