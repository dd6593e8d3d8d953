/-!
# Text in letters, digits and hyphens

The characters of ASCII come first, then a hyphen, then where the other characters belong: in order
of their numbers and positions, each by its distance from the one before. A distance is written in
digits of a base that varies, whose thresholds follow the distances seen so far.
-/

namespace LogLayout.Text.Punycode

/-- The characters of ASCII in a text. -/
def basic (cs : List Char) : List Char := cs.filter (·.toNat < 0x80)

/-- How many digits there are. -/
def base : Nat := 36

/-- A digit. -/
def digit (n : Nat) : Char := Char.ofNat (if n < 26 then 0x61 + n else 0x30 + (n - 26))

/-- The least value of the last digit at a position; smaller digits are the last ones. -/
def threshold (bias position : Nat) : Nat := max 1 (min 26 (position - bias))

/-- The digits of a distance from a position on. -/
def digits (bias position n : Nat) : List Char :=
  let t := threshold bias position
  if n < t then [digit n]
  else digit (t + (n - t) % (base - t)) :: digits bias (position + base) ((n - t) / (base - t))
termination_by n
decreasing_by
  have low : 1 ≤ threshold bias position := Nat.le_max_left ..
  exact Nat.lt_of_le_of_lt (Nat.div_le_self ..) (by omega)

/-- How often a distance is divided until it is small, times the base, and what is left of it. -/
def reduce (n : Nat) : Nat × Nat :=
  if 455 < n then
    let (k, n) := reduce (n / 35)
    (k + base, n)
  else (0, n)
termination_by n
decreasing_by omega

/-- The bias after a distance. The first distance counts less. -/
def adapt (isFirst : Bool) (distance count : Nat) : Nat :=
  let n := distance / (if isFirst then 700 else 2)
  let (k, n) := reduce (n + n / count)
  k + base * n / (n + 38)

/-- What was written of the other characters so far. -/
structure Progress where
  /-- How many characters are placed. -/
  placed : Nat
  /-- The distance to where the next one could be. -/
  distance : Nat := 0
  bias : Nat := 72
  isFirst : Bool := true
  written : List Char := []

/-- Passes a character while the one with number `n` is placed. -/
def Progress.pass (n : Nat) (p : Progress) (c : Char) : Progress :=
  if c.toNat < n then { p with distance := p.distance + 1 }
  else if c.toNat = n then
    { placed := p.placed + 1, bias := adapt p.isFirst p.distance (p.placed + 1), isFirst := false
      written := p.written ++ digits p.bias base p.distance }
  else p

/-- Places the characters with the given numbers, the first of which is that of `previous` or a
later one. -/
def place (cs : List Char) (p : Progress) (previous : Nat) : List Nat → List Char
  | [] => p.written
  | n :: ns =>
    let p := { p with distance := p.distance + (n - previous) * (p.placed + 1) }
    let p := cs.foldl (Progress.pass n) p
    place cs { p with distance := p.distance + 1 } (n + 1) ns

/-- The numbers of the other characters in order. -/
def others (cs : List Char) : List Nat :=
  (((cs.filter (0x80 ≤ ·.toNat)).map Char.toNat).mergeSort).eraseDups

/-- The text in letters, digits and hyphens. -/
def encode (cs : List Char) : List Char :=
  let known := basic cs
  known ++ (if known.isEmpty then [] else ['-']) ++ place cs ⟨known.length, 0, 72, true, []⟩ 0x80
    (others cs)

end LogLayout.Text.Punycode
