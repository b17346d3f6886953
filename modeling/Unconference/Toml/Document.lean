import Unconference.Toml.Number
import Unconference.Toml.Text
import Unconference.Toml.Tree

/-!
# TOML documents

A document is a sequence of lines: headers, and keys with values in the table of the last header.
Lists may run over several lines, tables within a value may not.

Values may not be nested deeper than `deepest`.  How much is scanned is bounded by the number of
characters, because each opening bracket and each comma takes one.
-/

namespace Unconference.Toml

open Text

/-- The table that key and value pairs within braces make up. -/
def inlineTable (pairs : List ((List String × String) × Setting)) : Option Setting := do
  let children ← pairs.foldlM
    (fun children ((path, key), value) => setKey key value path false true children) []
  return .table (Children.entries children)

mutual

/-- A value, in which at most `depth` brackets and braces may stand within each other; `count`
bounds how much can follow. -/
def value (depth : Nat) : Nat → Scanner Setting
  | 0, _ => none
  | count + 1, input =>
    match input with
    | '[' :: rest =>
      if depth = 0 then none
      else do
        let (elements, rest) ← elements (depth - 1) count (skipLines false rest)
        return (.list elements, rest)
    | '\x7b' :: rest =>
      if depth = 0 then none
      else
        match skipBlanks rest with
        | '\x7d' :: rest => some (.table [], rest)
        | rest => do
          let (pairs, rest) ← pairs (depth - 1) count rest
          return (← inlineTable pairs, rest)
    | '"' :: _ | '\'' :: _ => do
      let (string, rest) ← text input
      return (.text string, rest)
    | input => token input

/-- The elements of a list up to its closing bracket, the last of which may have a comma behind. -/
def elements (depth : Nat) : Nat → Scanner (List Setting)
  | 0, _ => none
  | count + 1, input =>
    match input with
    | ']' :: rest => some ([], rest)
    | input => do
      let (first, rest) ← value depth count input
      match skipLines false rest with
      | ',' :: rest =>
        let (others, rest) ← elements depth count (skipLines false rest)
        return (first :: others, rest)
      | ']' :: rest => return ([first], rest)
      | _ => none

/-- The pairs of a table in braces, one at least. -/
def pairs (depth : Nat) : Nat → Scanner (List ((List String × String) × Setting))
  | 0, _ => none
  | count + 1, input => do
    let (name, rest) ← key input
    match rest with
    | '=' :: rest =>
      let (held, rest) ← value depth count (skipBlanks rest)
      match skipBlanks rest with
      | ',' :: rest =>
        let (others, rest) ← pairs depth count rest
        return ((name, held) :: others, rest)
      | '\x7d' :: rest => return ([(name, held)], rest)
      | _ => none
    | _ => none

end

/-- What has been read so far: the names of the last header and all tables. -/
structure Progress where
  header : List String := []
  tables : Children := []

/-- A key with its value, up to the end of the line. -/
def readPair (progress : Progress) (input : List Char) : Option (Progress × List Char) := do
  let ((path, name), rest) ← key input
  match rest with
  | '=' :: rest =>
    let (held, rest) ← value deepest (2 * rest.length + 2) (skipBlanks rest)
    let rest ← endOfLine rest
    let tables ← update (setKey name held path false true) progress.header progress.tables
    return ({ progress with tables }, rest)
  | _ => none

/-- A header, behind its opening brackets. -/
def readHeader (opening : String → Children → Option Children) (closing : List Char)
    (progress : Progress) (input : List Char) : Option (Progress × List Char) := do
  let ((path, name), rest) ← key input
  let rest ← endOfLine (← after closing rest)
  let tables ← update (opening name) path progress.tables
  return ({ header := path ++ [name], tables }, rest)

/-- Reads line after line, `count` of them at most. -/
def readLines : Nat → Progress → List Char → Option Children
  | 0, _, _ => none
  | count + 1, progress, input => do
    match skipBlanks input with
    | [] => return progress.tables
    | '[' :: '[' :: rest =>
      let (progress, rest) ← readHeader openNext [']', ']'] progress rest
      readLines count progress rest
    | '[' :: rest =>
      let (progress, rest) ← readHeader openTable [']'] progress rest
      readLines count progress rest
    | c :: rest =>
      if c = '#' || c = '\n' || c = '\r' then readLines count progress (← endOfLine (c :: rest))
      else
        let (progress, rest) ← readPair progress (c :: rest)
        readLines count progress rest

/-- The entries of a document, or `none` if it is not well formed.  A byte order mark may stand in
front. -/
def parse (document : String) : Option Setting.Entries := do
  let input := match document.toList with
    | '\uFEFF' :: rest => rest
    | input => input
  return (← readLines (input.length + 1) {} input).entries

end Unconference.Toml
