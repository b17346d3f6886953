import Unconference.Decimal.Text

/-!
# Settings

A setting is a value as it comes from a file, from the environment or from a document, before
anybody knows what it is meant for.  Whole numbers keep the form in which they were given: with a
sign or without one.  A single character is a kind of its own, although it mostly counts as a text.
The entries of a table are sorted by name.
-/

namespace Unconference

inductive Setting where
  | nothing
  | truth (value : Bool)
  | signed (value : Int)
  | unsigned (value : Nat)
  | real (value : RealNumber)
  | text (value : String)
  | character (value : Char)
  | list (elements : List Setting)
  | table (entries : List (String × Setting))

namespace Setting

instance : Inhabited Setting := ⟨nothing⟩

abbrev Entries := List (String × Setting)

/-- A whole number with its sign, as long as it takes no more than 64 bits. -/
def ofInt? (value : Int) : Option Setting :=
  if Int64.minValue.toInt ≤ value ∧ value ≤ Int64.maxValue.toInt then some (signed value) else none

/-- Puts an entry into its place, instead of one of the same name. -/
def insertEntry (name : String) (value : Setting) : Entries → Entries
  | [] => [(name, value)]
  | (other, held) :: rest =>
    if name < other then (name, value) :: (other, held) :: rest
    else if name = other then (name, value) :: rest
    else (other, held) :: insertEntry name value rest

def sorted (entries : Entries) : Entries :=
  entries.foldl (fun sorted (name, value) => insertEntry name value sorted) []

mutual

/-- One setting over another: tables are merged, and everything else is replaced. -/
def overlaid (base : Setting) : Setting → Setting
  | table entries =>
    match base with
    | table below => table (overlay below entries)
    | _ => table entries
  | setting => setting

/-- Puts entries over those of the same names and adds the others. -/
def overlay (below : Entries) : Entries → Entries
  | [] => below
  | (name, value) :: rest =>
    let value := match below.lookup name with
      | some held => overlaid held value
      | none => value
    overlay (insertEntry name value below) rest

end

/-- A setting at the end of a path of names, as entries. -/
def nested : List String → Setting → Entries
  | [], _ => []
  | [name], value => [(name, value)]
  | name :: rest, value => [(name, table (nested rest value))]

end Setting

end Unconference
