import Unconference.Setting
import Unconference.Text.Scan

/-!
# Numbers, truth values and dates in TOML

All of these are runs of letters, digits and a few signs.  Between two digits of a number there may
be an underscore.  A date, a time of day or both are recognised and kept as a table with their
text, since nothing in a configuration is meant to be one.
-/

namespace Unconference.Toml

open Text

def isDigit (c : Char) : Bool := '0' ≤ c && c ≤ '9'

/-- Digits without the underscores, each of which has to stand between two digits. -/
def digitRun (isKind : Char → Bool) : List Char → Option (List Char)
  | [] => none
  | [digit] => if isKind digit then some [digit] else none
  | digit :: '_' :: rest =>
    if isKind digit then (digitRun isKind rest).map (digit :: ·) else none
  | digit :: rest =>
    if isKind digit then (digitRun isKind rest).map (digit :: ·) else none

/-- Decimal digits without a zero in front, unless it is all there is. -/
def wholeDigits (chars : List Char) : Option (List Char) :=
  match digitRun isDigit chars with
  | some ('0' :: _ :: _) => none
  | digits => digits

/-- Splits off a sign; true is for the minus sign. -/
def sign : List Char → Option Bool × List Char
  | '-' :: rest => (some true, rest)
  | '+' :: rest => (some false, rest)
  | chars => (none, chars)

def basedInteger (base : Nat) (chars : List Char) : Option Setting := do
  let digits ← digitRun (fun c => (digitsValue base [c]).isSome) chars
  Setting.ofInt? (← digitsValue base digits)

def integer (token : List Char) : Option Setting :=
  match token with
  | '0' :: 'x' :: digits => basedInteger 16 digits
  | '0' :: 'o' :: digits => basedInteger 8 digits
  | '0' :: 'b' :: digits => basedInteger 2 digits
  | token => do
    let (minus, digits) := sign token
    let value ← digitsValue 10 (← wholeDigits digits)
    Setting.ofInt? (if minus = some true then -value else value)

/-- A power of ten, as it stands behind its letter. -/
def power (chars : List Char) : Option Int := do
  let (minus, digits) := sign chars
  let value ← digitsValue 10 (← digitRun isDigit digits)
  return if minus = some true then -value else value

/-- A decimal without its sign: digits, then a fraction, a power of ten or both. -/
def unsignedDecimal (isNegative : Bool) (chars : List Char) : Option RealNumber := do
  let (mantissa, rest) := span (fun c => c ≠ 'e' && c ≠ 'E') chars
  let (whole, fraction) := span (· ≠ '.') mantissa
  let whole ← wholeDigits whole
  let fraction ← match fraction with
    | _ :: digits => digitRun isDigit digits
    | [] => if rest.isEmpty then none else some []
  let exponent ← match rest with
    | _ :: digits => power digits
    | [] => some 0
  let digits ← digitsValue 10 (whole ++ fraction)
  return .finite isNegative digits (exponent - fraction.length)

/-- A decimal that is too large for double precision is no number, unless it is negative. -/
def real (token : List Char) : Option Setting := do
  let (minus, rest) := sign token
  let isNegative := minus = some true
  match rest with
  | ['i', 'n', 'f'] => return .real (.infinite isNegative)
  | ['n', 'a', 'n'] => return .real .notANumber
  | rest =>
    match ← unsignedDecimal isNegative rest with
    | .finite false digits exponent =>
      let _ ← Decimal.Binary.ofDecimal digits exponent
      return .real (.finite false digits exponent)
    | number => return .real number

/-- A number of two digits within bounds. -/
def twoDigits (low high : Nat) (tens ones : Char) : Option Nat := do
  let value ← digitsValue 10 [tens, ones]
  if low ≤ value ∧ value ≤ high then some value else none

def isLeapYear (year : Nat) : Bool := year % 4 = 0 && (year % 100 ≠ 0 || year % 400 = 0)

def daysIn (year month : Nat) : Nat :=
  if month = 2 then if isLeapYear year then 29 else 28
  else if month = 4 || month = 6 || month = 9 || month = 11 then 30
  else 31

/-- The input behind a date. -/
def afterDate : List Char → Option (List Char)
  | a :: b :: c :: d :: '-' :: m :: n :: '-' :: e :: f :: rest => do
    let year ← digitsValue 10 [a, b, c, d]
    let month ← twoDigits 1 12 m n
    let _ ← twoDigits 1 (daysIn year month) e f
    return rest
  | _ => none

/-- The input behind a time of day, which has seconds and may have a fraction of them. -/
def afterTime : List Char → Option (List Char)
  | h :: i :: ':' :: m :: n :: ':' :: s :: t :: rest => do
    let _ ← twoDigits 0 23 h i
    let _ ← twoDigits 0 59 m n
    let _ ← twoDigits 0 60 s t
    match rest with
    | '.' :: rest =>
      let (fraction, rest) := span isDigit rest
      if fraction.isEmpty then none else some rest
    | rest => return rest
  | _ => none

/-- Whether a list is what tells the distance from universal time, or empty. -/
def isOffset : List Char → Bool
  | [] | ['Z'] | ['z'] => true
  | [direction, h, i, ':', m, n] =>
    (direction = '+' || direction = '-') &&
      (twoDigits 0 23 h i).isSome && (twoDigits 0 59 m n).isSome
  | _ => false

/-- The table that stands for a date or time. -/
def moment (token : List Char) : Setting :=
  .table [("$__toml_private_datetime", .text (String.ofList token))]

def isTimeWithOffset (chars : List Char) : Bool := (afterTime chars).any isOffset

/-- A date, a time, or a date and a time with `T` between them. -/
def dateOrTime (token : List Char) : Option Setting :=
  match afterDate token with
  | some [] => some (moment token)
  | some (separator :: time) =>
    if (separator = 'T' || separator = 't') && isTimeWithOffset time then some (moment token)
    else none
  | none => if afterTime token = some [] then some (moment token) else none

/-- The characters of numbers, truth values and dates. -/
def isTokenChar (c : Char) : Bool :=
  c.isAlphanum || c = '+' || c = '-' || c = '_' || c = '.' || c = ':'

def tokenValue (token : List Char) : Option Setting :=
  if token = ['t', 'r', 'u', 'e'] then some (.truth true)
  else if token = ['f', 'a', 'l', 's', 'e'] then some (.truth false)
  else (dateOrTime token).or ((integer token).or (real token))

/-- A number, a truth value or a date.  A date may be followed by a blank and a time. -/
def token (input : List Char) : Option (Setting × List Char) := do
  let (chars, rest) := span isTokenChar input
  match afterDate chars, rest with
  | some [], ' ' :: later =>
    let (time, behind) := span isTokenChar later
    if time.head?.any isDigit then
      if isTimeWithOffset time then some (moment (chars ++ ' ' :: time), behind) else none
    else some (moment chars, rest)
  | _, _ => return (← tokenValue chars, rest)

end Unconference.Toml
