import Unconference.Setting

/-!
# Wrapped values

A table in a file can wrap a value: the value is then its entry of the name `valueName`, and the
other entries do not count.  The name `labelName` is kept for labels that no file can carry, so a
table with an entry of this name is refused.  The table that the whole file makes up is neither.
-/

namespace Unconference.Setting

def valueName : String := "___figment_value_value"

def labelName : String := "___figment_value_id"

mutual

/-- A setting with the values of all wrappers in their places; `none` if a table has a label. -/
def unwrapped : Setting → Option Setting
  | list elements => do return list (← unwrappedElements elements)
  | table entries => do
    let entries ← unwrappedEntries entries
    return (entries.lookup valueName).getD (table entries)
  | setting => some setting

def unwrappedElements : List Setting → Option (List Setting)
  | [] => some []
  | element :: rest => do return (← unwrapped element) :: (← unwrappedElements rest)

def unwrappedEntries : List (String × Setting) → Option (List (String × Setting))
  | [] => some []
  | (name, value) :: rest => do
    if name = labelName then none
    else return (name, ← unwrapped value) :: (← unwrappedEntries rest)

end

/-- The entries of a file, each with its wrappers resolved. -/
def unwrappedFile (entries : Entries) : Option Entries :=
  entries.mapM fun (name, value) => (unwrapped value).map (name, ·)

end Unconference.Setting
