import Unconference.Decimal.Shortest

/-!
# Decimals as text

Real numbers are read as exact decimals and written as the shortest decimal of double precision.
There are two ways of writing them: `plainText` always writes all places and omits the point of a
whole number, `pointedText` always writes a point, and changes over to a power of ten for
numbers of more than sixteen places and for very small ones.
-/

namespace Unconference

open Decimal

inductive RealNumber where
  /-- The number `± digits · 10 ^ exponent`. -/
  | finite (isNegative : Bool) (digits : Nat) (exponent : Int)
  | infinite (isNegative : Bool)
  | notANumber
deriving DecidableEq

namespace RealNumber

def sign (isNegative : Bool) : String := if isNegative then "-" else ""

def zeros (count : Int) : String := "".pushn '0' count.toNat

/-- The digits with all their places, `exponent` being that of the last digit. -/
def positional (digits : String) (exponent : Int) : String :=
  let whole : Int := digits.length + exponent
  if 0 ≤ exponent then digits ++ zeros exponent
  else if 0 < whole then
    String.ofList (digits.toList.take whole.toNat ++ '.' :: digits.toList.drop whole.toNat)
  else "0." ++ zeros (-whole) ++ digits

/-- The digits with a point behind the first one and a power of ten, which always has a sign. -/
def scientific (digits : String) (exponent : Int) : String :=
  let power := digits.length + exponent - 1
  let suffix := (if 0 ≤ power then "e+" else "e") ++ toString power
  match digits.toList with
  | [] => ""
  | [digit] => String.ofList [digit] ++ suffix
  | digit :: rest => String.ofList (digit :: '.' :: rest) ++ suffix

/-- Writes a number by rules for choosing and for placing its shortest digits. -/
def textWith (tie : Tie) (write : Digits → String) : RealNumber → String
  | finite isNegative digits exponent =>
    match Binary.ofDecimal digits exponent with
    | some number => sign isNegative ++ write (shortest tie number)
    | none => sign isNegative ++ "inf"
  | infinite isNegative => sign isNegative ++ "inf"
  | notANumber => "NaN"

def plainText : RealNumber → String :=
  textWith .up fun number => positional (toString number.digits) number.exponent

/-- Numbers with a point and a digit behind it are written as they are. -/
def pointed (number : Digits) : String :=
  let digits := toString number.digits
  let whole : Int := digits.length + number.exponent
  if 0 ≤ number.exponent && whole ≤ 16 then positional digits number.exponent ++ ".0"
  else if -5 < whole && whole ≤ 16 then positional digits number.exponent
  else scientific digits number.exponent

def pointedText : RealNumber → String := textWith .even pointed

end RealNumber

end Unconference
