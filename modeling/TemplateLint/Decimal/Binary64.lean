import TemplateLint.Decimal.Basic

/-!
# Double precision

A decimal denotes the nearest double-precision number, ties going to the even mantissa. All
arithmetic is on natural numbers and exact.
-/

namespace TemplateLint

/-- A finite number of double precision without its sign: `mantissa * 2 ^ exponent`. -/
structure Binary64 where
  mantissa : Nat
  exponent : Int
deriving Repr, DecidableEq

/-- A quotient rounded to the nearest natural number, a tie going to the even one. -/
def roundQuotient (num den : Nat) : Nat :=
  let q := num / den
  let r := num % den
  if 2 * r < den then q else if den < 2 * r then q + 1 else q + q % 2

namespace Binary64

/-- The least exponent of a finite number. -/
def leastExponent : Int := -1074

/-- The greatest exponent of a finite number. -/
def greatestExponent : Int := 971

/-- The quotient `num / (den * 2 ^ exponent)` as a numerator and a denominator. -/
def scale (num den : Nat) (exponent : Int) : Nat × Nat :=
  (num * Nat.pow 2 (-exponent).toNat, den * Nat.pow 2 exponent.toNat)

/-- The least mantissa of 53 bits. -/
def leastMantissa : Nat := 0x10000000000000

/-- The exponent at which a positive quotient has a mantissa of 53 bits, as far as exponents go. -/
def fitExponent (num den : Nat) : Int :=
  let guess : Int := (num.log2 : Int) - den.log2 - 52
  let (n, d) := scale num den guess
  let exponent := if n < d * leastMantissa then guess - 1 else guess
  if exponent < leastExponent then leastExponent else exponent

/-- The nearest number to a quotient, or none beyond the greatest one. -/
def ofQuotient? (num den : Nat) : Option Binary64 :=
  if num = 0 then some ⟨0, leastExponent⟩
  else
    let exponent := fitExponent num den
    let (n, d) := scale num den exponent
    let mantissa := roundQuotient n d
    let x : Binary64 :=
      if mantissa = 2 * leastMantissa then ⟨leastMantissa, exponent + 1⟩ else ⟨mantissa, exponent⟩
    if greatestExponent < x.exponent then none else some x

/-- The nearest number to the magnitude of a decimal, or none beyond the greatest one. A decimal
of more than 400 places on either side needs no arithmetic. -/
def ofDecimal? (d : Decimal) : Option Binary64 :=
  let places : Int := (Nat.toDigits 10 d.digits).length + d.exponent
  if d.digits = 0 ∨ places < -400 then some ⟨0, leastExponent⟩
  else if 400 < places then none
  else ofQuotient? (d.digits * Nat.pow 10 d.exponent.toNat) (Nat.pow 10 (-d.exponent).toNat)

/-- The natural number that a number is equal to, if it has no fraction. -/
def toNat? (x : Binary64) : Option Nat :=
  if 0 ≤ x.exponent then some (x.mantissa * Nat.pow 2 x.exponent.toNat)
  else
    let unit := Nat.pow 2 (-x.exponent).toNat
    if x.mantissa % unit = 0 then some (x.mantissa / unit) else none

end Binary64

end TemplateLint
