import LogLayout.Number.Rounding

/-!
# Doubles and their text

A double is a sign and a scaled number, an infinity, or not a number. Its text has the fewest
decimal digits that read back as the same double, and of those the nearest to it.
-/

namespace LogLayout.Number

/-- A binary floating-point number of sixty-four bits. -/
inductive Binary64
  | finite (negative : Bool) (magnitude : Scaled)
  | infinite (negative : Bool)
  | nan
  deriving Repr, DecidableEq

namespace Binary64

/-- The double nearest to `num / den`, or an infinity if that is out of range. -/
def ofQuotient (negative : Bool) (num den : Nat) : Binary64 :=
  let x := nearest num den
  if maxExponent < x.exponent then .infinite negative else .finite negative x

/-- The quotient `digits · 10 ^ exponent`. -/
def decimalQuotient (digits : Nat) (exponent : Int) : Nat × Nat :=
  if 0 ≤ exponent then (digits * Nat.pow 10 exponent.toNat, 1)
  else (digits, Nat.pow 10 (-exponent).toNat)

/-- The double nearest to `digits · 10 ^ exponent`. Exponents far outside the range are decided
by the number of digits, before any power of ten is taken. -/
def ofDecimal (negative : Bool) (digits : Nat) (exponent : Int) : Binary64 :=
  let leading : Int := (Nat.toDigits 10 digits).length + exponent
  if digits = 0 || leading < -400 then .finite negative ⟨0, minExponent⟩
  else if 400 < leading then .infinite negative
  else
    let q := decimalQuotient digits exponent
    ofQuotient negative q.1 q.2

/-- Whether the double is a zero of either sign. -/
def isZero : Binary64 → Bool
  | .finite _ x => x.mantissa = 0
  | _ => false

/-! ## Text -/

/-- The number of decimal digits before the point, counted negatively for leading zeros after it:
the `k` with `10 ^ (k - 1) ≤ x < 10 ^ k`. -/
def decimalPoint (x : Scaled) : Int :=
  let (num, den) := x.quotient
  if den ≤ num then (Nat.toDigits 10 (num / den)).length
  else
    let zeros : Nat := ((List.range 400).find? fun j => den ≤ num * Nat.pow 10 (j + 1)).getD 0
    Int.negOfNat zeros

/-- The decimals `digits · 10 ^ exponent` with this exponent that enclose `x`, nearer one first. -/
def decimalNeighbours (x : Scaled) (exponent : Int) : List Nat :=
  let (num, den) := x.quotient
  let (num, den) :=
    if 0 ≤ exponent then (num, den * Nat.pow 10 exponent.toNat)
    else (num * Nat.pow 10 (-exponent).toNat, den)
  let below := num / den
  let nearer := roundQuotient num den
  if nearer = below then [below, below + 1] else [below + 1, below]

/-- The digits and the decimal exponent of the shortest decimal that reads back as `x`. -/
def shortest (x : Scaled) : Nat × Int :=
  let point := decimalPoint x
  let found := (List.range 17).findSome? fun n : Nat =>
    let exponent := point - (n + 1 : Nat)
    ((decimalNeighbours x exponent).find? fun digits =>
      let q := decimalQuotient digits exponent
      nearest q.1 q.2 == x).map (·, exponent)
  found.getD (0, 0)

/-- Where the plain form ends: the point is written among the digits while it stands less than
four zeros before them and at most sixteen places after the first. -/
def isPlain (point : Int) : Bool := -4 < point && point ≤ 16

/-- Digits in plain form, with the point `point` places after the first digit. -/
def plainText (digits : List Char) (point : Int) : String :=
  let n := digits.length
  if point ≤ 0 then .ofList ('0' :: '.' :: (List.replicate (-point).toNat '0' ++ digits))
  else if point.toNat < n then
    .ofList (digits.take point.toNat ++ '.' :: digits.drop point.toNat)
  else .ofList (digits ++ List.replicate (point.toNat - n) '0' ++ ['.', '0'])

/-- Digits in exponent form: one digit, the others after a point, and the exponent with its sign
in at least two digits. -/
def exponentText (digits : List Char) (point : Int) : String :=
  let exponent := point - 1
  let head := match digits with
    | [] => []
    | [d] => [d]
    | d :: ds => d :: '.' :: ds
  let size := Nat.toDigits 10 exponent.natAbs
  let padded := if size.length < 2 then '0' :: size else size
  .ofList (head ++ 'e' :: (if exponent < 0 then '-' else '+') :: padded)

/-- The text of a positive number. -/
def scaledText (x : Scaled) : String :=
  if x.mantissa = 0 then "0.0"
  else
    let (digits, exponent) := shortest x
    let all := Nat.toDigits 10 digits
    let point : Int := all.length + exponent
    let kept := (all.reverse.dropWhile (· == '0')).reverse
    if isPlain point then plainText kept point else exponentText kept point

/-- The text of a double. -/
def text : Binary64 → String
  | .finite negative x => (if negative then "-" else "") ++ scaledText x
  | .infinite negative => if negative then "-inf" else "inf"
  | .nan => "nan"

end Binary64

end LogLayout.Number
