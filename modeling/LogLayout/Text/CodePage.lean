/-!
# Code pages

A code page gives each character that it has one byte of its own.
-/

namespace LogLayout.Text

/-- A code page. -/
structure CodePage where
  /-- The name that is tried as it stands. -/
  name : String
  otherNames : List String
  /-- The characters of the last bytes, in pieces. The bytes before them stand for the characters
  of their own number. -/
  rows : List String
  deriving Repr, DecidableEq, Inhabited

namespace CodePage

/-- What stands in a page at a byte that has no character. -/
def missing : Char := '\ufffd'

/-- The characters of the last bytes. -/
def upper (p : CodePage) : List Char := p.rows.flatMap String.toList

/-- The first byte that does not stand for the character of its own number. -/
def first (p : CodePage) : Nat := 256 - p.upper.length

/-- The byte of a character. -/
def byte? (p : CodePage) (c : Char) : Option Nat :=
  if c.toNat < p.first then some c.toNat
  else if c = missing then none
  else (p.upper.findIdx? (· = c)).map (p.first + ·)

end CodePage

end LogLayout.Text
