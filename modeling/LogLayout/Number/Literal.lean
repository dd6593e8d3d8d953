import LogLayout.Number.Binary64
import LogLayout.Text.Numeral

/-!
# Literals of doubles

A double as it is written in a document: a sign, digits with or without a point, and an exponent,
or a word for an infinity or for what is not a number. Underscores between digits do not count.
-/

namespace LogLayout.Number

/-- The digits at the front of a text by their values, and the rest. -/
def takeDigits (cs : List Char) : List Nat × List Char :=
  ((cs.takeWhile Char.isDigit).map fun c => c.toNat - '0'.toNat, cs.dropWhile Char.isDigit)

/-- The exponent that a text writes; none is zero. -/
def readExponent : List Char → Option Int
  | [] => some 0
  | 'e' :: cs =>
    let (negative, cs) := Text.takeSign cs
    match takeDigits cs with
    | (d :: ds, []) =>
      let size : Int := Text.ofDigits (d :: ds)
      some (if negative then -size else size)
    | _ => none
  | _ => none

/-- The double that an unsigned literal of digits writes. -/
def readUnsigned (negative : Bool) (cs : List Char) : Option Binary64 :=
  let (whole, cs) := takeDigits cs
  let (fraction, cs) := match cs with
    | '.' :: cs => takeDigits cs
    | cs => ([], cs)
  if whole.isEmpty && fraction.isEmpty then none
  else (readExponent cs).map fun exponent =>
    .ofDecimal negative (Text.ofDigits (whole ++ fraction)) (exponent - fraction.length)

/-- The double that a literal writes. -/
def Binary64.ofLiteral? (literal : String) : Option Binary64 :=
  let cs := (Text.stripChars literal.toList).map Char.toLower |>.filter (· ≠ '_')
  let (negative, cs) := Text.takeSign cs
  if cs = "inf".toList || cs = "infinity".toList then some (.infinite negative)
  else if cs = "nan".toList then some .nan
  else readUnsigned negative cs

end LogLayout.Number
