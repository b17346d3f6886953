import Unconference.Decimal.Binary

/-!
# Shortest decimals

Among the decimal numbers that are rounded to a given number of double precision, the shortest is
the one with the fewest digits, and of several with as many digits the nearest.  Which of two
equally near ones it is depends on what it is written for.
-/

namespace Unconference.Decimal

/-- The number `digits · 10 ^ exponent`. -/
structure Digits where
  digits : Nat
  exponent : Int
deriving DecidableEq

/-- Whether a quotient is one of those rounded to `number`: it lies between the points halfway to
the neighbours, which count themselves if the mantissa is even.  Below a power of two the neighbour
is only half as far. -/
def isRoundedTo (number : Binary) (quotient : Nat × Nat) : Bool :=
  let quarters := scale 2 (2 - number.exponent) quotient
  let low := 4 * number.mantissa -
    if number.mantissa = leastMantissa && number.exponent > lowestExponent then 1 else 2
  let high := 4 * number.mantissa + 2
  if number.mantissa % 2 = 0 then
    low * quarters.2 ≤ quarters.1 && quarters.1 ≤ high * quarters.2
  else low * quarters.2 < quarters.1 && quarters.1 < high * quarters.2

def Binary.quotient (number : Binary) : Nat × Nat := scale 2 number.exponent (number.mantissa, 1)

/-- The first of at most `steps` exponents from `exponent` on whose power of ten is above a
quotient. -/
def exponentAbove (quotient : Nat × Nat) : Nat → Int → Int
  | 0, exponent => exponent
  | steps + 1, exponent =>
    let (num, den) := scale 10 (-exponent) quotient
    if num < den then exponent else exponentAbove quotient steps (exponent + 1)

/-- The number of digits in front of the decimal point, from the number of binary digits. -/
def decimalExponent (quotient : Nat × Nat) : Int :=
  let bits : Int := quotient.1.log2 - quotient.2.log2
  exponentAbove quotient 4 (bits * 30103 / 100000 - 1)

/-- Which of two equally near decimals is taken. -/
inductive Tie where
  | even
  | up
deriving DecidableEq

/-- The nearest natural number. -/
def Tie.nearest (tie : Tie) (quotient : Nat × Nat) : Nat :=
  match tie with
  | even => Decimal.nearest quotient
  | up => (2 * quotient.1 + quotient.2) / (2 * quotient.2)

/-- The decimal with `count` digits that is nearest to `number`, if it is rounded to it. -/
def withDigits (tie : Tie) (number : Binary) (count : Nat) : Option Digits :=
  let exponent := decimalExponent number.quotient - count
  let (num, den) := scale 10 (-exponent) number.quotient
  let isHit (digits : Nat) := isRoundedTo number (scale 10 exponent (digits, 1))
  let below := num / den
  match isHit below, isHit (below + 1) with
  | true, true => some ⟨tie.nearest (num, den), exponent⟩
  | true, false => some ⟨below, exponent⟩
  | false, true => some ⟨below + 1, exponent⟩
  | false, false => none

/-- The same number without a zero at the end, which is there when the decimal of one digit is the
next power of ten. -/
def Digits.reduced (number : Digits) : Digits :=
  if number.digits % 10 = 0 then ⟨number.digits / 10, number.exponent + 1⟩ else number

/-- The shortest decimal that is rounded to `number`.  Seventeen digits always suffice. -/
def shortest (tie : Tie) (number : Binary) : Digits :=
  if number.mantissa = 0 then ⟨0, 0⟩
  else (((List.range' 1 17).findSome? (withDigits tie number)).getD ⟨0, 0⟩).reduced

end Unconference.Decimal
