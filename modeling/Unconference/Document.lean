import Unconference.Text.Quoted

/-!
# Documents

A document is what the program writes for others to read: numbers, truth values, texts, lists and
records with named fields in a fixed order, and nothing where an optional value is missing.  It is
printed with one element or field a line, two blanks deeper than what it belongs to; an empty list
or record is a pair of brackets.
-/

namespace Unconference

inductive Document where
  | nothing
  | number (value : Nat)
  | truth (value : Bool)
  | text (value : String)
  | list (elements : List Document)
  | record (fields : List (String × Document))

namespace Document

def optional {α : Type} (document : α → Document) : Option α → Document
  | some value => document value
  | none => nothing

def listOf {α : Type} (document : α → Document) (values : List α) : Document :=
  list (values.map document)

def pair (first second : Document) : Document := list [first, second]

def indentation (depth : Nat) : String := "".pushn ' ' (2 * depth)

/-- Lines between two brackets, `depth` being that of the brackets. -/
def bracketed (opening closing : String) (depth : Nat) (lines : List String) : String :=
  if lines.isEmpty then opening ++ closing
  else
    let separator := ",\n" ++ indentation (depth + 1)
    opening ++ "\n" ++ indentation (depth + 1) ++ separator.intercalate lines ++ "\n" ++
      indentation depth ++ closing

mutual

def printed (depth : Nat) : Document → String
  | nothing => "null"
  | number value => toString value
  | truth value => if value then "true" else "false"
  | text value => Text.quoted value
  | list elements => bracketed "[" "]" depth (printedElements (depth + 1) elements)
  | record fields => bracketed "\x7b" "\x7d" depth (printedFields (depth + 1) fields)

def printedElements (depth : Nat) : List Document → List String
  | [] => []
  | element :: rest => printed depth element :: printedElements depth rest

def printedFields (depth : Nat) : List (String × Document) → List String
  | [] => []
  | (name, value) :: rest =>
    (Text.quoted name ++ ": " ++ printed depth value) :: printedFields depth rest

end

/-- The document as text, without a line break at the end. -/
def print (document : Document) : String := printed 0 document

end Document

end Unconference
