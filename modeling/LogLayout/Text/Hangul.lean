/-!
# Korean syllables

A syllable is made of an initial consonant, a vowel and possibly a final consonant, which the number
of its character tells.
-/

namespace LogLayout.Text

/-- The parts of a syllable by number. -/
structure Syllable where
  initial : Nat
  vowel : Nat
  /-- The final consonant, from one on; zero if there is none. -/
  final : Nat
  deriving Repr, DecidableEq, Inhabited

namespace Syllable

/-- The number of the first syllable's character. -/
def firstNumber : Nat := 0xac00

/-- How many vowels there are. -/
def vowels : Nat := 21

/-- How many ways there are to end a syllable. -/
def endings : Nat := 28

/-- How many syllables there are. -/
def total : Nat := 19 * vowels * endings

/-- The number of the character of a syllable. -/
def number (s : Syllable) : Nat := firstNumber + (s.initial * vowels + s.vowel) * endings + s.final

/-- The syllable of a character. -/
def of? (c : Char) : Option Syllable :=
  let n := c.toNat - firstNumber
  if firstNumber ≤ c.toNat ∧ n < total then
    some ⟨n / endings / vowels, n / endings % vowels, n % endings⟩
  else none

/-! ## Letters -/

/-- The number of the first letter's character. -/
def firstLetter : Nat := 0x3131

/-- How many consonants the letters start with. -/
def consonants : Nat := 30

/-- How many letters there are. -/
def letters : Nat := consonants + vowels

/-- The consonants that only end a syllable, among the letters. -/
def onlyFinal : List Nat := [2, 4, 5, 9, 10, 11, 12, 13, 14, 15, 19]

/-- The consonants that only begin a syllable, among the letters. -/
def onlyInitial : List Nat := [7, 18, 24]

/-- The consonants that begin a syllable, among the letters. -/
def initials : List Nat := (List.range consonants).filter fun n => !onlyFinal.contains n

/-- The consonants that end a syllable, among the letters. -/
def finals : List Nat := (List.range consonants).filter fun n => !onlyInitial.contains n

/-- The letter of a character. -/
def letter? (c : Char) : Option Nat :=
  if firstLetter ≤ c.toNat && c.toNat < firstLetter + letters then some (c.toNat - firstLetter)
  else none

end Syllable

end LogLayout.Text
