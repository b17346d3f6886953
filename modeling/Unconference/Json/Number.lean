import Unconference.Decimal.Arithmetic
import Unconference.Setting
import Unconference.Text.Scan

/-!
# Numbers in JSON

A number is whole if it has neither a point nor a power of ten and takes no more than 64 bits, with
a sign only if it is negative.  All others are of double precision: of their digits as many count as
make up a number of 64 bits, and these are rounded before they are brought to their place.
-/

namespace Unconference.Json

open Text Decimal

def isDigit (c : Char) : Bool := '0' ≤ c && c ≤ '9'

/-- Appends digits to a number as long as it takes no more than 64 bits; the number of digits that
are left over is the second answer. -/
def appended (number : Nat) : List Char → Nat × Nat
  | [] => (number, 0)
  | digit :: rest =>
    let next := number * 10 + (digit.toNat - '0'.toNat)
    if next < UInt64.size then appended next rest else (number, rest.length + 1)

/-- The number with the given digits in front of the point and behind it, times a power of ten. -/
def real (isNegative : Bool) (whole fraction : List Char) (power : Int) : Option Setting := do
  let (number, left) := appended 0 whole
  let (number, unused) := appended number fraction
  let exponent := power + left - (fraction.length - unused : Nat)
  let (digits, exponent) := (← (← Binary.ofNat number).shifted exponent).decimal
  return .real (.finite isNegative digits exponent)

/-- A number without a point and a power of ten.  Zero has a sign only as a real number. -/
def integer (isNegative : Bool) (digits : List Char) : Option Setting := do
  let size ← digitsValue 10 digits
  if isNegative then
    match Setting.ofInt? (-size) with
    | some setting => if size = 0 then real true digits [] 0 else some setting
    | none => real true digits [] 0
  else if size < UInt64.size then some (.unsigned size)
  else real false digits [] 0

/-- The digits behind the point, if there is one. -/
def fractionDigits : List Char → Option (Option (List Char) × List Char)
  | '.' :: rest =>
    let (digits, rest) := span isDigit rest
    if digits.isEmpty then none else some (some digits, rest)
  | input => some (none, input)

/-- The power of ten behind its letter, if there is one. -/
def powerOfTen (input : List Char) : Option (Option Int × List Char) :=
  match input with
  | [] => some (none, [])
  | letter :: rest =>
    if letter = 'e' || letter = 'E' then do
      let (isNegative, rest) := match rest with
        | '-' :: rest => (true, rest)
        | '+' :: rest => (false, rest)
        | rest => (false, rest)
      let (digits, rest) := span isDigit rest
      if digits.isEmpty then none
      else
        let size : Int := ← digitsValue 10 digits
        some (some (if isNegative then -size else size), rest)
    else some (none, input)

def number (input : List Char) : Option (Setting × List Char) := do
  let (isNegative, rest) := match input with
    | '-' :: rest => (true, rest)
    | rest => (false, rest)
  let (whole, rest) := span isDigit rest
  match whole with
  | [] | '0' :: _ :: _ => none
  | whole =>
    let (fraction, rest) ← fractionDigits rest
    let (power, rest) ← powerOfTen rest
    match fraction, power with
    | none, none => return (← integer isNegative whole, rest)
    | fraction, power => return (← real isNegative whole (fraction.getD []) (power.getD 0), rest)

end Unconference.Json
