/-!
# Blank characters

Blank characters are the spaces, the line and paragraph separators and the four information
separators. Main statement: `isStripped_stripChars`, what is left neither starts nor ends with a
blank.
-/

namespace LogLayout.Text

/-- The runs of blank code points, first and last. The zero-width space is not among them. -/
def blankRuns : List (Nat × Nat) :=
  [(0x9, 0xd), (0x1c, 0x20), (0x85, 0x85), (0xa0, 0xa0), (0x1680, 0x1680), (0x2000, 0x200a),
   (0x2028, 0x2029), (0x202f, 0x202f), (0x205f, 0x205f), (0x3000, 0x3000)]

/-- A space or separator of any script. -/
def isBlank (c : Char) : Bool :=
  blankRuns.any fun run => run.1 ≤ c.toNat && c.toNat ≤ run.2

/-- The characters between the first and the last that are not blank. -/
def stripChars (cs : List Char) : List Char :=
  ((cs.dropWhile isBlank).reverse.dropWhile isBlank).reverse

/-- The text without the blanks at its two ends. -/
def strip (s : String) : String := .ofList (stripChars s.toList)

/-- Whether `cs` neither starts nor ends with a blank. -/
def IsStripped (cs : List Char) : Prop :=
  (∀ c ∈ cs.head?, isBlank c = false) ∧ (∀ c ∈ cs.getLast?, isBlank c = false)

theorem isBlank_head?_dropWhile (cs : List Char) :
    ∀ c ∈ (cs.dropWhile isBlank).head?, isBlank c = false := by
  intro c hc
  cases hd : cs.dropWhile isBlank with
  | nil => simp [hd] at hc
  | cons d ds =>
    simp only [hd, List.head?_cons, Option.mem_def, Option.some.injEq] at hc
    have := List.head?_dropWhile_not isBlank cs
    simp_all

/-- Dropping blanks at the end keeps the first character, unless nothing is left. -/
theorem head?_reverse_dropWhile {cs : List Char} {c : Char}
    (h : c ∈ ((cs.reverse.dropWhile isBlank).reverse).head?) : c ∈ cs.head? := by
  have split : cs = (cs.reverse.dropWhile isBlank).reverse
      ++ (cs.reverse.takeWhile isBlank).reverse := by
    rw [← List.reverse_append, List.takeWhile_append_dropWhile, List.reverse_reverse]
  cases kept : (cs.reverse.dropWhile isBlank).reverse with
  | nil => simp [kept] at h
  | cons d ds =>
    rw [kept] at h split
    rw [split]
    simpa using h

theorem isStripped_stripChars (cs : List Char) : IsStripped (stripChars cs) := by
  refine ⟨fun c hc => isBlank_head?_dropWhile cs c (head?_reverse_dropWhile hc), fun c hc => ?_⟩
  rw [stripChars, List.getLast?_reverse] at hc
  exact isBlank_head?_dropWhile _ c hc

end LogLayout.Text
