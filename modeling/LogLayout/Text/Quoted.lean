import LogLayout.Text.Printable

/-!
# Quoted text

Text in quotes, with a backslash before what could be misread. The single quote is used unless
the text holds a single quote and no double quote. Bytes are quoted the same way after a `b`.
-/

namespace LogLayout.Text

/-- The last `width` digits of `n` in base sixteen, in lower case. -/
def hexDigits : Nat → Nat → List Char
  | 0, _ => []
  | width + 1, n => hexDigits width (n / 16) ++ [Nat.digitChar (n % 16)]

/-- A code point by number, in the shortest of the three forms that hold it. -/
def escapeCode (n : Nat) : List Char :=
  if n < 0x100 then '\\' :: 'x' :: hexDigits 2 n
  else if n < 0x10000 then '\\' :: 'u' :: hexDigits 4 n
  else '\\' :: 'U' :: hexDigits 8 n

/-- One character inside the quotes `q`. -/
def quoteChar (q : Char) (shown : Char → Bool) (c : Char) : List Char :=
  if c = q || c = '\\' then ['\\', c]
  else if c = '\n' then ['\\', 'n']
  else if c = '\r' then ['\\', 'r']
  else if c = '\t' then ['\\', 't']
  else if shown c then [c]
  else escapeCode c.toNat

/-- The quote that surrounds `cs`. -/
def quoteMark (cs : List Char) : Char :=
  if cs.contains '\'' && !cs.contains '"' then '"' else '\''

/-- The characters of `cs` between quotes. -/
def quoteChars (shown : Char → Bool) (cs : List Char) : List Char :=
  let q := quoteMark cs
  q :: cs.flatMap (quoteChar q shown) ++ [q]

/-- The text in quotes, with the characters that are not printable by number. -/
def quoted (s : String) : String := .ofList (quoteChars isPrintable s.toList)

/-- Bytes in quotes, with those outside printable ASCII by number. -/
def quotedBytes (bytes : List UInt8) : String :=
  let shown := fun c : Char => 0x20 ≤ c.toNat && c.toNat < 0x7f
  .ofList ('b' :: quoteChars shown (bytes.map fun b => Char.ofNat b.toNat))

end LogLayout.Text
