/-!
# Scanning text

A scanner looks at the front of a list of characters and answers with what it found there and the
characters behind it, or with `none` if the front is not what it looks for.
-/

namespace Unconference.Text

abbrev Scanner (α : Type) := List Char → Option (α × List Char)

/-- The longest front whose characters are all of a kind. -/
def span (isKind : Char → Bool) (input : List Char) : List Char × List Char :=
  (input.takeWhile isKind, input.dropWhile isKind)

def after (front input : List Char) : Option (List Char) :=
  if front.isPrefixOf input then some (input.drop front.length) else none

/-- The value of a list of digits in a base. -/
def digitsValue (base : Nat) (digits : List Char) : Option Nat :=
  digits.foldlM
    (fun value digit => do
      let n ←
        if '0' ≤ digit ∧ digit ≤ '9' then some (digit.toNat - '0'.toNat)
        else if 'a' ≤ digit ∧ digit ≤ 'z' then some (digit.toNat - 'a'.toNat + 10)
        else if 'A' ≤ digit ∧ digit ≤ 'Z' then some (digit.toNat - 'A'.toNat + 10)
        else none
      if n < base then some (value * base + n) else none)
    0

/-- The character with a code point given by hexadecimal digits. -/
def charOfHex (digits : List Char) : Option Char := do
  let code ← digitsValue 16 digits
  if h : code.isValidChar then some (Char.ofNatAux code h) else none

/-- The character that a letter behind a backslash stands for. -/
def escapedChar : Char → Option Char
  | '"' => some '"'
  | '\\' => some '\\'
  | 'b' => some '\x08'
  | 'f' => some '\x0c'
  | 'n' => some '\n'
  | 'r' => some '\r'
  | 't' => some '\t'
  | _ => none

/-- Whether a character may stand in a text by itself: the tab and everything that is no control
character of ASCII. -/
def isPlain (c : Char) : Bool := c = '\t' || 0x20 ≤ c.toNat && c.toNat ≠ 0x7f

/-- The text up to a closing double quote, with its escapes resolved. -/
def quotedRest : Scanner (List Char)
  | [] => none
  | '"' :: rest => some ([], rest)
  | '\\' :: 'u' :: a :: b :: c :: d :: rest => do
    let char ← charOfHex [a, b, c, d]
    let (chars, rest) ← quotedRest rest
    return (char :: chars, rest)
  | '\\' :: 'U' :: a :: b :: c :: d :: e :: f :: g :: h :: rest => do
    let char ← charOfHex [a, b, c, d, e, f, g, h]
    let (chars, rest) ← quotedRest rest
    return (char :: chars, rest)
  | '\\' :: letter :: rest => do
    let char ← escapedChar letter
    let (chars, rest) ← quotedRest rest
    return (char :: chars, rest)
  | char :: rest =>
    if isPlain char && char ≠ '\\' then do
      let (chars, rest) ← quotedRest rest
      return (char :: chars, rest)
    else none

end Unconference.Text
