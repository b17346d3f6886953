import Unconference.Json.Number
import Unconference.Json.Text

/-!
# JSON documents

A document is a single value with blanks around it.  Of several entries of a table with the same
name the last one counts.

How much is scanned is bounded by the number of characters, because each opening bracket and each
comma takes one.
-/

namespace Unconference.Json

open Text

/-- An entry of a table up to the colon. -/
def name (input : List Char) : Option (String × List Char) := do
  match skipBlanks input with
  | '"' :: rest =>
    let (chars, rest) ← textRest rest
    match skipBlanks rest with
    | ':' :: rest => return (String.ofList chars, rest)
    | _ => none
  | _ => none

mutual

/-- A value and the blanks around it; `count` bounds how much can follow. -/
def value : Nat → Scanner Setting
  | 0, _ => none
  | count + 1, input => do
    let (setting, rest) ← bareValue count (skipBlanks input)
    return (setting, skipBlanks rest)

def bareValue : Nat → Scanner Setting
  | 0, _ => none
  | count + 1, input =>
    match input with
    | 'n' :: 'u' :: 'l' :: 'l' :: rest => some (.nothing, rest)
    | 't' :: 'r' :: 'u' :: 'e' :: rest => some (.truth true, rest)
    | 'f' :: 'a' :: 'l' :: 's' :: 'e' :: rest => some (.truth false, rest)
    | '"' :: rest => do
      let (chars, rest) ← textRest rest
      return (.text (String.ofList chars), rest)
    | '[' :: rest =>
      match skipBlanks rest with
      | ']' :: rest => some (.list [], rest)
      | rest => do
        let (elements, rest) ← elements count rest
        return (.list elements, rest)
    | '\x7b' :: rest =>
      match skipBlanks rest with
      | '\x7d' :: rest => some (.table [], rest)
      | rest => do
        let (pairs, rest) ← pairs count rest
        return (.table (Setting.sorted pairs), rest)
    | input => number input

/-- The elements of a list up to its closing bracket, one at least. -/
def elements : Nat → Scanner (List Setting)
  | 0, _ => none
  | count + 1, input => do
    let (first, rest) ← value count input
    match rest with
    | ',' :: rest =>
      let (others, rest) ← elements count rest
      return (first :: others, rest)
    | ']' :: rest => return ([first], rest)
    | _ => none

/-- The entries of a table up to its closing brace, one at least. -/
def pairs : Nat → Scanner (List (String × Setting))
  | 0, _ => none
  | count + 1, input => do
    let (name, rest) ← name input
    let (held, rest) ← value count rest
    match rest with
    | ',' :: rest =>
      let (others, rest) ← pairs count rest
      return ((name, held) :: others, rest)
    | '\x7d' :: rest => return ([(name, held)], rest)
    | _ => none

end

/-- The value that a document holds, or `none` if it is not well formed. -/
def parse (document : String) : Option Setting :=
  let input := document.toList
  match value (3 * input.length + 3) input with
  | some (setting, []) => some setting
  | _ => none

end Unconference.Json
