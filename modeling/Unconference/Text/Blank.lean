/-!
# Blanks

`isWhiteSpace` tells the characters with the Unicode property of white space, of which
`isAsciiWhiteSpace` is the part that formats usually skip between their tokens.
-/

namespace Unconference.Text

/-- The characters with the property of white space, first and last code point of each range. -/
def whiteSpaceRanges : List (Nat × Nat) := [
  (0x09, 0x0d), (0x20, 0x20), (0x85, 0x85), (0xa0, 0xa0), (0x1680, 0x1680), (0x2000, 0x200a),
  (0x2028, 0x2029), (0x202f, 0x202f), (0x205f, 0x205f), (0x3000, 0x3000)]

def isWhiteSpace (c : Char) : Bool :=
  whiteSpaceRanges.any fun (first, last) => first ≤ c.toNat && c.toNat ≤ last

/-- The blank, the tab, the form feed and the two characters of line breaks. -/
def isAsciiWhiteSpace (c : Char) : Bool :=
  c = ' ' || c = '\t' || c = '\n' || c = '\x0c' || c = '\r'

/-- A list of characters without the white space at its ends. -/
def trimmed (chars : List Char) : List Char :=
  ((chars.dropWhile isWhiteSpace).reverse.dropWhile isWhiteSpace).reverse

end Unconference.Text
