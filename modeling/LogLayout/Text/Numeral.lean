import LogLayout.Text.Blank
import LogLayout.Text.Digit
import LogLayout.Text.Quoted

/-!
# Numerals

Whole numbers written in decimal digits. Digits of every script count, single underscores may
stand between digits, a sign may precede them and spaces surround them. A numeral of more than
`digitLimit` digits is refused.
-/

namespace LogLayout.Text

/-- The longest numeral that is read. -/
def digitLimit : Nat := 4300

/-- Why a text is not read as a whole number. -/
inductive NumeralFault
  | malformed (text : String)
  | tooManyDigits (count : Nat)
  deriving Repr, DecidableEq

/-- The wording of a fault; a long text is shown up to its two-hundredth character. -/
def NumeralFault.message : NumeralFault → String
  | .malformed text =>
    "invalid literal for int() with base 10: " ++ .ofList ((quoted text).toList.take 200)
  | .tooManyDigits count =>
    "Exceeds the limit (" ++ toString digitLimit
      ++ " digits) for integer string conversion: value has " ++ toString count
      ++ " digits; use sys.set_int_max_str_digits() to increase the limit"

/-- The number that a row of digit values writes, the first digit being the highest. -/
def ofDigits (ds : List Nat) : Nat := ds.foldl (fun n d => 10 * n + d) 0

/-- A digit of any script as its ASCII digit and a blank outside ASCII as a space. Other
characters outside ASCII become a question mark, which no numeral holds. -/
def foldNumeralChar (c : Char) : Char :=
  if c.toNat < 127 then c
  else if isBlank c then ' '
  else match digitValue? c with
    | some d => Nat.digitChar d
    | none => '?'

/-- The spaces that may surround a numeral: those of ASCII, without the information separators. -/
def isNumeralSpace (c : Char) : Bool := c = ' ' || (9 ≤ c.toNat && c.toNat ≤ 13)

/-- The sign at the front, if there is one: whether it is a minus, and the rest. -/
def takeSign : List Char → Bool × List Char
  | '-' :: cs => (true, cs)
  | '+' :: cs => (false, cs)
  | cs => (false, cs)

/-- Digits with single underscores between neighbours. -/
def isDigitRun : List Char → Bool
  | [] => false
  | [c] => c.isDigit
  | c :: '_' :: d :: cs => c.isDigit && isDigitRun (d :: cs)
  | c :: d :: cs => c.isDigit && isDigitRun (d :: cs)

/-- The whole number that a numeral writes. -/
def readInteger (text : String) : Except NumeralFault Int :=
  let folded := text.toList.map foldNumeralChar
  let (negative, unsigned) := takeSign (folded.dropWhile isNumeralSpace)
  let run := unsigned.takeWhile fun c => c.isDigit || c = '_'
  let rest := unsigned.dropWhile fun c => c.isDigit || c = '_'
  let digits := run.filter Char.isDigit
  if !isDigitRun run then .error (.malformed text)
  else if digitLimit < digits.length then .error (.tooManyDigits digits.length)
  else if !rest.all isNumeralSpace then .error (.malformed text)
  else
    let magnitude : Int := ofDigits (digits.map fun c => c.toNat - '0'.toNat)
    .ok (if negative then -magnitude else magnitude)

end LogLayout.Text
