import Unconference.Setting

/-!
# Tables in TOML

Tables come about in three ways: a header names one, a longer header implies those on the way to
it, and dots in a key lead into one.  Only the header of a table that is merely implied may still
follow, and dots lead only into tables that come from dots.  A list of tables grows by one with each
of its headers, and keys go to the last.
-/

namespace Unconference.Toml

/-- How a table came about. -/
inductive Origin where
  | implied
  | headed
  | dotted
deriving DecidableEq

inductive Node where
  | leaf (value : Setting)
  | table (origin : Origin) (children : List (String × Node))
  | tables (earlier : List (List (String × Node))) (last : List (String × Node))

abbrev Children := List (String × Node)

/-- Puts a node in, instead of one of the same name. -/
def put (name : String) (node : Node) (children : Children) : Children :=
  (name, node) :: children.filter (·.1 ≠ name)

/-- Gives a key its value, which lies behind `path` in a table.  Every table on the way must be open
for dots, and the table of the key must be one of dots itself unless the path is empty. -/
def setKey (key : String) (value : Setting) :
    (path : List String) → (isDotted isFirst : Bool) → Children → Option Children
  | [], isDotted, isFirst, children =>
    if isDotted = isFirst || (children.lookup key).isSome then none
    else some (put key (.leaf value) children)
  | name :: path, _, _, children =>
    match children.lookup name with
    | none => do
      let inner ← setKey key value path true false []
      return put name (.table .dotted inner) children
    | some (.table .headed _) => none
    | some (.table origin inner) => do
      let inner ← setKey key value path (origin = .dotted) false inner
      return put name (.table origin inner) children
    | some (.tables earlier last) => do
      let last ← setKey key value path false false last
      return put name (.tables earlier last) children
    | some (.leaf _) => none

/-- Changes the table that a path of header names leads to, implying those that are not there. -/
def update (change : Children → Option Children) : List String → Children → Option Children
  | [], children => change children
  | name :: path, children =>
    match children.lookup name with
    | none => do
      let inner ← update change path []
      return put name (.table .implied inner) children
    | some (.table origin inner) => do
      let inner ← update change path inner
      return put name (.table origin inner) children
    | some (.tables earlier last) => do
      let last ← update change path last
      return put name (.tables earlier last) children
    | some (.leaf _) => none

/-- The header of a table. -/
def openTable (key : String) (children : Children) : Option Children :=
  match children.lookup key with
  | none => some (put key (.table .headed []) children)
  | some (.table .implied inner) => some (put key (.table .headed inner) children)
  | some _ => none

/-- The header of the next table of a list. -/
def openNext (key : String) (children : Children) : Option Children :=
  match children.lookup key with
  | none => some (put key (.tables [] []) children)
  | some (.tables earlier last) => some (put key (.tables (earlier ++ [last]) []) children)
  | some _ => none

mutual

def Node.setting : Node → Setting
  | .leaf value => value
  | .table _ children => .table (Setting.sorted (childSettings children))
  | .tables earlier last =>
    .list (tableSettings earlier ++ [.table (Setting.sorted (childSettings last))])

def childSettings : List (String × Node) → List (String × Setting)
  | [] => []
  | (name, node) :: rest => (name, node.setting) :: childSettings rest

def tableSettings : List (List (String × Node)) → List Setting
  | [] => []
  | children :: rest =>
    .table (Setting.sorted (childSettings children)) :: tableSettings rest

end

/-- The entries of a whole document. -/
def Children.entries (children : Children) : Setting.Entries :=
  Setting.sorted (childSettings children)

end Unconference.Toml
