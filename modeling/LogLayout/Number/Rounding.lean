/-!
# Rounding to a double

A positive quotient rounded to the nearest number `mantissa · 2 ^ exponent` with a mantissa below
`2 ^ 53`; of two equally near ones the even mantissa is taken. All of it is arithmetic on natural
numbers. Main statement: `roundQuotient_near`, the rounded quotient is within half a unit.
-/

namespace LogLayout.Number

/-- The quotient rounded to the nearest whole number, a half to the even neighbour. -/
def roundQuotient (num den : Nat) : Nat :=
  let q := num / den
  let r := num % den
  if 2 * r < den then q
  else if den < 2 * r then q + 1
  else if q % 2 = 0 then q else q + 1

theorem roundQuotient_near (num den : Nat) (h : 0 < den) :
    2 * (roundQuotient num den * den) ≤ 2 * num + den ∧
      2 * num ≤ 2 * (roundQuotient num den * den) + den := by
  have whole : den * (num / den) + num % den = num := Nat.div_add_mod num den
  have small : num % den < den := Nat.mod_lt _ h
  have next : (num / den + 1) * den = den * (num / den) + den := by
    rw [Nat.add_mul, Nat.mul_comm, Nat.one_mul]
  have same : num / den * den = den * (num / den) := Nat.mul_comm ..
  simp only [roundQuotient]
  split
  · omega
  · split
    · omega
    · split <;> omega

/-- The whole number `mantissa · 2 ^ exponent`, or a fraction of one if `exponent` is negative. -/
structure Scaled where
  mantissa : Nat
  exponent : Int
  deriving Repr, DecidableEq

/-- The least exponent: numbers below it have fewer significant bits. -/
def minExponent : Int := -1074

/-- The largest exponent of a finite double. -/
def maxExponent : Int := 971

/-- `num / den` as a quotient of whole numbers after division by `2 ^ exponent`. -/
def rescale (num den : Nat) (exponent : Int) : Nat × Nat :=
  if 0 ≤ exponent then (num, den * Nat.pow 2 exponent.toNat)
  else (num * Nat.pow 2 (-exponent).toNat, den)

/-- The exponent at which the quotient has a mantissa of fifty-three bits, or the least one. -/
def quotientExponent (num den : Nat) : Int :=
  let guess : Int := (Nat.log2 num : Int) - Nat.log2 den - 52
  let scaled := rescale num den guess
  let exponent := if scaled.1 / scaled.2 < Nat.pow 2 52 then guess - 1 else guess
  max exponent minExponent

/-- The nearest double to `num / den`, without an upper bound on its exponent. -/
def nearest (num den : Nat) : Scaled :=
  if num = 0 then ⟨0, minExponent⟩
  else
    let exponent := quotientExponent num den
    let scaled := rescale num den exponent
    let mantissa := roundQuotient scaled.1 scaled.2
    if mantissa = Nat.pow 2 53 then ⟨Nat.pow 2 52, exponent + 1⟩ else ⟨mantissa, exponent⟩

/-- The number as a quotient of whole numbers. -/
def Scaled.quotient (x : Scaled) : Nat × Nat :=
  if 0 ≤ x.exponent then (x.mantissa * Nat.pow 2 x.exponent.toNat, 1)
  else (x.mantissa, Nat.pow 2 (-x.exponent).toNat)

/-- The whole part of the number. -/
def Scaled.floor (x : Scaled) : Nat := x.quotient.1 / x.quotient.2

/-- The product with a whole number, rounded to the nearest double. -/
def Scaled.times (x : Scaled) (factor : Nat) : Scaled :=
  nearest (x.quotient.1 * factor) x.quotient.2

end LogLayout.Number
