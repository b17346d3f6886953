import Unconference.Text.Printable

/-!
# Text literals

A text inside a message stands between double quotes.  The quote and the backslash have a backslash
in front of them, four control characters a letter of their own, and every other character that
would not show by itself is written by its number.
-/

namespace Unconference.Text

/-- The hexadecimal digits of a number, without zeros in front. -/
def hexNumber (n : Nat) : List Char := Nat.toDigits 16 n

def literalChar (c : Char) : List Char :=
  match c with
  | '"' => ['\\', '"']
  | '\\' => ['\\', '\\']
  | '\n' => ['\\', 'n']
  | '\r' => ['\\', 'r']
  | '\t' => ['\\', 't']
  | '\x00' => ['\\', '0']
  | c => if isPrintable c then [c] else '\\' :: 'u' :: '\x7b' :: hexNumber c.toNat ++ ['\x7d']

def literal (text : String) : String :=
  String.ofList ('"' :: text.toList.flatMap literalChar ++ ['"'])

end Unconference.Text
