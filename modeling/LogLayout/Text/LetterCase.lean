import LogLayout.Text.CaseTable

/-!
# Letter case

Upper and lower case of a text over all scripts. A letter may become several characters, so the
length of a text can change; the capital of a letter is always a single one. The lower case of a
letter does not depend on its neighbours.
-/

namespace LogLayout.Text

/-- Whether the run moves the code point `n`. -/
def CaseRun.Covers (r : CaseRun) (n : Nat) : Bool :=
  r.first ≤ n && n ≤ r.last && (n - r.first) % r.stride == 0

/-- The character that `c` is moved to by the first run that moves it, else `c` itself. -/
def moveCase (runs : List CaseRun) (c : Char) : Char :=
  match runs.find? (·.Covers c.toNat) with
  | some run => Char.ofNat (c.toNat + run.shift).toNat
  | none => c

/-- The image of one character: an expansion if it has one, else a move by a run, else itself. -/
def mapCase (expansions : List (Nat × List Nat)) (runs : List CaseRun) (c : Char) : List Char :=
  match expansions.lookup c.toNat with
  | some image => image.map Char.ofNat
  | none => [moveCase runs c]

/-- The upper-case image of one character. -/
def upperChar (c : Char) : List Char := mapCase upperExpansions upperRuns c

/-- The lower-case image of one character. -/
def lowerChar (c : Char) : List Char := mapCase lowerExpansions lowerRuns c

/-- The capital letter of one character, if it has a single one. -/
def capital (c : Char) : Char := moveCase (upperRuns ++ capitalRuns) c

/-- The text in upper case. -/
def upper (s : String) : String := .ofList (s.toList.flatMap upperChar)

/-- The text in lower case. -/
def lower (s : String) : String := .ofList (s.toList.flatMap lowerChar)

end LogLayout.Text
