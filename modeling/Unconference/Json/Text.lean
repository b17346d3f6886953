import Unconference.Text.Scan

/-!
# Texts in JSON

A text stands between double quotes.  A backslash begins an escape; characters beyond the first
`2 ^ 16` are written by the two halves of a pair there.
-/

namespace Unconference.Json

open Text

def isBlank (c : Char) : Bool := c = ' ' || c = '\n' || c = '\t' || c = '\r'

def skipBlanks (input : List Char) : List Char := input.dropWhile isBlank

/-- The character that a letter behind a backslash stands for. -/
def escapedChar : Char → Option Char
  | '/' => some '/'
  | letter => Text.escapedChar letter

/-- The character that a pair of halves stands for. -/
def charOfPair (first second : List Char) : Option Char := do
  let high ← digitsValue 16 first
  let low ← digitsValue 16 second
  if 0xd800 ≤ high ∧ high < 0xdc00 ∧ 0xdc00 ≤ low ∧ low < 0xe000 then
    let code := 0x10000 + (high - 0xd800) * 0x400 + (low - 0xdc00)
    if h : code.isValidChar then some (Char.ofNatAux code h) else none
  else none

/-- The text up to its closing quote. -/
def textRest : Scanner (List Char)
  | [] => none
  | '"' :: rest => some ([], rest)
  | '\\' :: 'u' :: a :: b :: c :: d :: rest =>
    match charOfHex [a, b, c, d] with
    | some char => do
      let (chars, rest) ← textRest rest
      return (char :: chars, rest)
    | none =>
      match rest with
      | '\\' :: 'u' :: e :: f :: g :: h :: rest => do
        let char ← charOfPair [a, b, c, d] [e, f, g, h]
        let (chars, rest) ← textRest rest
        return (char :: chars, rest)
      | _ => none
  | '\\' :: letter :: rest => do
    let char ← escapedChar letter
    let (chars, rest) ← textRest rest
    return (char :: chars, rest)
  | char :: rest =>
    if 0x20 ≤ char.toNat && char ≠ '\\' then do
      let (chars, rest) ← textRest rest
      return (char :: chars, rest)
    else none

end Unconference.Json
