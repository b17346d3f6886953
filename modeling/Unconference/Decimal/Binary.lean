/-!
# Numbers of double precision

A decimal number is rounded to the nearest number of the form `m · 2 ^ q` with `m` of 53 bits and
`q` at least −1074; of two equally near ones the even one is taken.  Numbers too large for the
format are infinite.  Everything is computed exactly, as a quotient of natural numbers.
-/

namespace Unconference.Decimal

/-- The number `mantissa · 2 ^ exponent`. -/
structure Binary where
  mantissa : Nat
  exponent : Int
deriving DecidableEq

/-- The least number of 53 bits. -/
def leastMantissa : Nat := Nat.pow 2 52

def lowestExponent : Int := -1074

def highestExponent : Int := 971

/-- A quotient times a power of a base, as a quotient. -/
def scale (base : Nat) (exponent : Int) (quotient : Nat × Nat) : Nat × Nat :=
  if 0 ≤ exponent then (quotient.1 * Nat.pow base exponent.toNat, quotient.2)
  else (quotient.1, quotient.2 * Nat.pow base (-exponent).toNat)

/-- The nearest natural number, the even one of two equally near ones. -/
def nearest (quotient : Nat × Nat) : Nat :=
  let whole := quotient.1 / quotient.2
  let rest := 2 * (quotient.1 % quotient.2)
  if rest < quotient.2 || rest = quotient.2 && whole % 2 = 0 then whole else whole + 1

/-- The power of two whose multiples the rounded number is taken from. -/
def gridExponent (quotient : Nat × Nat) : Int :=
  let guess := max (quotient.1.log2 - quotient.2.log2 - 52 : Int) lowestExponent
  let (num, den) := scale 2 (-guess) quotient
  if guess > lowestExponent && num < den * leastMantissa then guess - 1 else guess

/-- The nearest number of double precision; `none` if it would be too large. -/
def Binary.ofQuotient (quotient : Nat × Nat) : Option Binary :=
  let exponent := gridExponent quotient
  let mantissa := nearest (scale 2 (-exponent) quotient)
  let rounded : Binary :=
    if mantissa = 2 * leastMantissa then ⟨leastMantissa, exponent + 1⟩ else ⟨mantissa, exponent⟩
  if rounded.exponent > highestExponent then none else some rounded

/-- Numbers of this many places in front of the point are too large, and those with this many zeros
behind it are nearest to zero. -/
def manyPlaces : Int := 400

/-- The nearest number to `digits · 10 ^ exponent`. -/
def Binary.ofDecimal (digits : Nat) (exponent : Int) : Option Binary :=
  let places : Int := digits.log2 * 30103 / 100000 + exponent
  if digits = 0 || places < -manyPlaces then some ⟨0, lowestExponent⟩
  else if manyPlaces < places then none
  else Binary.ofQuotient (scale 10 exponent (digits, 1))

end Unconference.Decimal
