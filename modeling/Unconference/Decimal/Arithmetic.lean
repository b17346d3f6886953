import Unconference.Decimal.Binary

/-!
# Arithmetic of double precision

Products and quotients are computed exactly and then rounded.  A decimal that is put together in
this way, from its digits and a power of ten that are rounded each for itself, can differ in its
last place from the one that is rounded at once.
-/

namespace Unconference.Decimal

namespace Binary

def times (first second : Binary) : Option Binary :=
  ofQuotient
    (scale 2 (first.exponent + second.exponent) (first.mantissa * second.mantissa, 1))

def dividedBy (first second : Binary) : Option Binary :=
  ofQuotient (scale 2 (first.exponent - second.exponent) (first.mantissa, second.mantissa))

def zero : Binary := ⟨0, lowestExponent⟩

def ofNat (value : Nat) : Option Binary := ofQuotient (value, 1)

/-- The greatest power of ten that is not too large. -/
def greatestPower : Nat := 308

/-- A power of ten up to the greatest one. -/
def powerOfTen (power : Nat) : Binary := (ofNat (Nat.pow 10 power)).getD zero

/-- A number divided by a power of ten, in as many steps as it takes. -/
def shrunk (number : Binary) (power : Nat) : Option Binary :=
  if number.mantissa = 0 then some zero
  else if power ≤ greatestPower then number.dividedBy (powerOfTen power)
  else (number.dividedBy (powerOfTen greatestPower)).bind (·.shrunk (power - greatestPower))
termination_by power
decreasing_by
  simp only [greatestPower] at *
  omega

/-- A number times a power of ten. -/
def grown (number : Binary) (power : Nat) : Option Binary :=
  if number.mantissa = 0 then some zero
  else if power ≤ greatestPower then number.times (powerOfTen power)
  else none

/-- A number times ten to the power of `exponent`. -/
def shifted (number : Binary) (exponent : Int) : Option Binary :=
  if 0 ≤ exponent then number.grown exponent.toNat else number.shrunk (-exponent).toNat

/-- The digits and the exponent of the decimal number of the same value. -/
def decimal (number : Binary) : Nat × Int :=
  if 0 ≤ number.exponent then (number.mantissa * Nat.pow 2 number.exponent.toNat, 0)
  else (number.mantissa * Nat.pow 5 (-number.exponent).toNat, number.exponent)

end Binary

end Unconference.Decimal
