/-!
# Character sets

A character set puts characters at numbered places, in rows and in spans of successive numbers.
-/

namespace LogLayout.Text

/-- A set of characters with their places. -/
structure CharacterSet where
  /-- Characters at successive places, from the given one on. -/
  rows : List (Nat × String)
  /-- Characters with successive numbers at successive places: the first place, the number of the
  character there, and how many they are. -/
  spans : List (Nat × Nat × Nat) := []
  deriving Repr, DecidableEq, Inhabited

namespace CharacterSet

/-- The place of a character in a row. -/
def placeInRow? (c : Char) (row : Nat × String) : Option Nat :=
  (row.2.toList.findIdx? (· = c)).map (row.1 + ·)

/-- The place of a character in a span. -/
def placeInSpan? (c : Char) (span : Nat × Nat × Nat) : Option Nat :=
  let (place, first, count) := span
  if first ≤ c.toNat && c.toNat < first + count then some (place + (c.toNat - first)) else none

/-- The place of a character. -/
def place? (s : CharacterSet) (c : Char) : Option Nat :=
  s.rows.findSome? (placeInRow? c) <|> s.spans.findSome? (placeInSpan? c)

/-- Whether the set has the character. -/
def has (s : CharacterSet) (c : Char) : Bool := (s.place? c).isSome

/-- How many characters of the set have a number from `first` on and below `bound`. -/
def countIn (s : CharacterSet) (first bound : Nat) : Nat :=
  let inside := fun c : Char => first ≤ c.toNat && c.toNat < bound
  let inRows := s.rows.foldl (fun n row => n + row.2.toList.countP inside) 0
  s.spans.foldl (fun n (_, start, count) => n + (min bound (start + count) - max first start)) inRows

end CharacterSet

end LogLayout.Text
