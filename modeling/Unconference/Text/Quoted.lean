/-!
# Quoted text

Text between double quotes, with a backslash in front of what could not stand there itself: the
quote, the backslash and the control characters.  Five control characters have a letter of their
own; the others are written by their number.
-/

namespace Unconference.Text

def hexDigit (n : Nat) : Char := Nat.digitChar (n % 16)

/-- The four hexadecimal digits of a number below `2 ^ 16`. -/
def hexDigits (n : Nat) : List Char :=
  [hexDigit (n / 4096), hexDigit (n / 256), hexDigit (n / 16), hexDigit n]

def escaped (c : Char) : List Char :=
  match c with
  | '"' => ['\\', '"']
  | '\\' => ['\\', '\\']
  | '\n' => ['\\', 'n']
  | '\r' => ['\\', 'r']
  | '\t' => ['\\', 't']
  | '\x08' => ['\\', 'b']
  | '\x0c' => ['\\', 'f']
  | c => if c.toNat < 32 then '\\' :: 'u' :: hexDigits c.toNat else [c]

def quoted (text : String) : String :=
  String.ofList ('"' :: text.toList.flatMap escaped ++ ['"'])

end Unconference.Text
