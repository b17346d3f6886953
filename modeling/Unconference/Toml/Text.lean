import Unconference.Text.Scan

/-!
# Texts, keys and blanks in TOML

A text is quoted once or three times, by double quotes, where a backslash has a meaning, or by
single quotes, where it has none.  A key is a text on one line or a run of plain letters; keys
joined by dots lead into tables.
-/

namespace Unconference.Toml

open Text

def isBlank (c : Char) : Bool := c = ' ' || c = '\t'

def skipBlanks (input : List Char) : List Char := input.dropWhile isBlank

/-- The input behind a line break, which is a line feed with or without a carriage return. -/
def lineBreak : List Char → Option (List Char)
  | '\n' :: rest => some rest
  | '\r' :: '\n' :: rest => some rest
  | _ => none

/-- Skips blanks, line breaks and comments. -/
def skipLines (inComment : Bool) : List Char → List Char
  | [] => []
  | '\n' :: rest => skipLines false rest
  | '\r' :: '\n' :: rest => skipLines false rest
  | c :: rest =>
    if inComment then if isPlain c then skipLines true rest else c :: rest
    else if isBlank c then skipLines false rest
    else if c = '#' then skipLines true rest
    else c :: rest

/-- The rest of a line behind a key with its value or a table name: nothing but blanks and a
comment. -/
def endOfLine (input : List Char) : Option (List Char) :=
  let rest := match skipBlanks input with
    | '#' :: comment => comment.dropWhile isPlain
    | rest => rest
  match rest with
  | [] => some []
  | rest => lineBreak rest

/-- A text in single quotes, behind the first of them. -/
def verbatimRest : Scanner (List Char)
  | [] => none
  | '\'' :: rest => some ([], rest)
  | c :: rest =>
    if isPlain c then do
      let (chars, rest) ← verbatimRest rest
      return (c :: chars, rest)
    else none

/-- The quotes that end a text quoted three times; up to two more belong to the text. -/
def closingQuotes (quote : Char) (input : List Char) : Option (List Char × List Char) :=
  let (quotes, rest) := span (· = quote) input
  if 3 ≤ quotes.length then
    let kept := min (quotes.length - 3) 2
    some (List.replicate kept quote, List.replicate (quotes.length - 3 - kept) quote ++ rest)
  else none

/-- A text in three single quotes, behind the first three. -/
def verbatimLinesRest : Scanner (List Char)
  | [] => none
  | '\n' :: rest => do
    let (chars, rest) ← verbatimLinesRest rest
    return ('\n' :: chars, rest)
  | '\r' :: '\n' :: rest => do
    let (chars, rest) ← verbatimLinesRest rest
    return ('\n' :: chars, rest)
  | c :: rest =>
    match if c = '\'' then closingQuotes '\'' (c :: rest) else none with
    | some closed => some closed
    | none =>
      if isPlain c then do
        let (chars, rest) ← verbatimLinesRest rest
        return (c :: chars, rest)
      else none

/-- Whether only blanks come before the next line break. -/
def blankToLineEnd (input : List Char) : Bool := (lineBreak (skipBlanks input)).isSome

/-- A text in three double quotes, behind the first three.  A backslash at the end of a line joins
it with what comes first on the lines behind; `joining` tells that this is going on. -/
def quotedLinesRest (joining : Bool) : Scanner (List Char)
  | [] => none
  | '\n' :: rest =>
    if joining then quotedLinesRest true rest
    else do
      let (chars, rest) ← quotedLinesRest false rest
      return ('\n' :: chars, rest)
  | '\r' :: '\n' :: rest =>
    if joining then quotedLinesRest true rest
    else do
      let (chars, rest) ← quotedLinesRest false rest
      return ('\n' :: chars, rest)
  | '\\' :: 'u' :: a :: b :: c :: d :: rest => do
    let char ← charOfHex [a, b, c, d]
    let (chars, rest) ← quotedLinesRest false rest
    return (char :: chars, rest)
  | '\\' :: 'U' :: a :: b :: c :: d :: e :: f :: g :: h :: rest => do
    let char ← charOfHex [a, b, c, d, e, f, g, h]
    let (chars, rest) ← quotedLinesRest false rest
    return (char :: chars, rest)
  | '\\' :: letter :: rest =>
    match escapedChar letter with
    | some char => do
      let (chars, rest) ← quotedLinesRest false rest
      return (char :: chars, rest)
    | none =>
      if blankToLineEnd (letter :: rest) then quotedLinesRest true rest else none
  | c :: rest =>
    if joining && isBlank c then quotedLinesRest true rest
    else
      match if c = '"' then closingQuotes '"' (c :: rest) else none with
      | some closed => some closed
      | none =>
        if isPlain c && c ≠ '\\' then do
          let (chars, rest) ← quotedLinesRest false rest
          return (c :: chars, rest)
        else none

/-- The input without the line break that may follow three opening quotes. -/
def withoutFirstBreak (input : List Char) : List Char := (lineBreak input).getD input

/-- A text in any of the four forms. -/
def text : Scanner String
  | '"' :: '"' :: '"' :: rest => do
    let (chars, rest) ← quotedLinesRest false (withoutFirstBreak rest)
    return (String.ofList chars, rest)
  | '\'' :: '\'' :: '\'' :: rest => do
    let (chars, rest) ← verbatimLinesRest (withoutFirstBreak rest)
    return (String.ofList chars, rest)
  | '"' :: rest => do
    let (chars, rest) ← quotedRest rest
    return (String.ofList chars, rest)
  | '\'' :: rest => do
    let (chars, rest) ← verbatimRest rest
    return (String.ofList chars, rest)
  | _ => none

def isKeyChar (c : Char) : Bool := c.isAlphanum || c = '_' || c = '-'

def simpleKey : Scanner String
  | '"' :: rest => do
    let (chars, rest) ← quotedRest rest
    return (String.ofList chars, rest)
  | '\'' :: rest => do
    let (chars, rest) ← verbatimRest rest
    return (String.ofList chars, rest)
  | input =>
    let (chars, rest) := span isKeyChar input
    if chars.isEmpty then none else some (String.ofList chars, rest)

/-- Keys joined by dots: those before the last one, and the last one.  The number of keys is at
most `count`. -/
def dottedKey : Nat → Scanner (List String × String)
  | 0, _ => none
  | count + 1, input => do
    let (key, rest) ← simpleKey (skipBlanks input)
    match skipBlanks rest with
    | '.' :: rest =>
      let ((path, last), rest) ← dottedKey count rest
      return ((key :: path, last), rest)
    | rest => return (([], key), rest)

/-- The most that anything may be nested: brackets and braces within each other, and the parts of a
key, which lead from table to table. -/
def deepest : Nat := 79

def key : Scanner (List String × String) := dottedKey deepest

end Unconference.Toml
