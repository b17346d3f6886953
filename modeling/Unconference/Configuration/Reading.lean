import Unconference.Setting
import Unconference.Text.Literal

/-!
# Reading settings

Readers turn settings into values of the program.  What can be wrong with a setting is a `Fault`;
the path to it is collected on the way out.  Records are read field by field, in the order in which
their table lists them, so the first fault in that order is the one reported; fields that are
required and missing come after all others.  A record can also be given as a list of its fields.

Settings come in two dialects, which differ in how faults are worded and in a few corners: a plain
document, and the layers of a file and the environment.
-/

namespace Unconference

open Setting

inductive Dialect where
  | document
  | layers
deriving DecidableEq

inductive Fault where
  | missingField (name : String)
  | unknownVariant (found : String) (expected : List String)
  | wrongType (found : Setting) (expected : String)
  | outOfRange (found : Setting) (expected : String)
  | notSingle (found : Setting) (expected : String)
  | wrongLength (length : Nat) (expected : String)

structure ReadError where
  path : List String := []
  fault : Fault

namespace Setting

/-- What a setting is, as the messages of a dialect say it. -/
def description : Dialect → Setting → String
  | .document, nothing => "null"
  | .layers, nothing => "unit"
  | .document, truth value => "boolean `" ++ toString value ++ "`"
  | .layers, truth value => "bool " ++ toString value
  | .document, signed value => "integer `" ++ toString value ++ "`"
  | .layers, signed value => "signed int `" ++ toString value ++ "`"
  | .document, unsigned value => "integer `" ++ toString value ++ "`"
  | .layers, unsigned value => "unsigned int `" ++ toString value ++ "`"
  | .document, real value => "floating point `" ++ value.pointedText ++ "`"
  | .layers, real value => "float `" ++ value.plainText ++ "`"
  | _, text value => "string " ++ Text.literal value
  | _, character value => "string " ++ Text.literal (String.singleton value)
  | _, list _ => "sequence"
  | _, table _ => "map"

end Setting

def variantChoice (dialect : Dialect) (variants : List String) : String :=
  let choice := match variants with
    | [first, second] => "`" ++ first ++ "` or `" ++ second ++ "`"
    | variants => "one of " ++ ", ".intercalate (variants.map fun name => "`" ++ name ++ "`")
  match dialect with
  | .document => choice
  | .layers => "`" ++ choice ++ "`"

def Fault.message (dialect : Dialect) : Fault → String
  | missingField name => "missing field `" ++ name ++ "`"
  | unknownVariant found expected =>
    match dialect with
    | .document =>
      "unknown variant `" ++ found ++ "`, expected " ++ variantChoice dialect expected
    | .layers =>
      "unknown variant: found `" ++ found ++ "`, expected " ++ variantChoice dialect expected
  | wrongType found expected =>
    match dialect with
    | .document => "invalid type: " ++ found.description dialect ++ ", expected " ++ expected
    | .layers => "invalid type: found " ++ found.description dialect ++ ", expected " ++ expected
  | outOfRange found expected | notSingle found expected =>
    match dialect with
    | .document => "invalid value: " ++ found.description dialect ++ ", expected " ++ expected
    | .layers => "invalid value " ++ found.description dialect ++ ", expected " ++ expected
  | wrongLength length expected =>
    "invalid length " ++ toString length ++ ", expected " ++ expected

abbrev Reader (α : Type) := Setting → Except ReadError α

namespace Reader

variable {α : Type}

def fail (fault : Fault) : Except ReadError α := .error { fault }

/-- What is read at a place of a table or list; a fault gets the place in front of its path. -/
def within (place : String) (read : Except ReadError α) : Except ReadError α :=
  read.mapError fun error => { error with path := place :: error.path }

/-- A whole number from 0 to `most`, of the type named `expected`. -/
def wholeNumber (most : Nat) (expected : String) : Reader Nat
  | unsigned value =>
    if value ≤ most then .ok value else fail (.outOfRange (unsigned value) expected)
  | signed value =>
    if 0 ≤ value && value ≤ most then .ok value.toNat
    else fail (.outOfRange (signed value) expected)
  | setting => fail (.wrongType setting expected)

def word64 : Reader Nat := wholeNumber (UInt64.size - 1) "u64"

def machineWord : Reader Nat := wholeNumber (UInt64.size - 1) "usize"

def word32 : Reader Nat := wholeNumber (UInt32.size - 1) "u32"

def flag : Reader Bool
  | truth value => .ok value
  | setting => fail (.wrongType setting "a boolean")

def string : Reader String
  | text value => .ok value
  | character value => .ok (String.singleton value)
  | setting => fail (.wrongType setting "a string")

def optional (read : Reader α) : Reader (Option α)
  | nothing => .ok none
  | setting => (read setting).map some

def elements (read : Reader α) : Nat → List Setting → Except ReadError (List α)
  | _, [] => .ok []
  | index, element :: rest => do
    let value ← within (toString index) (read element)
    let values ← elements read (index + 1) rest
    return value :: values

def sequence (read : Reader α) : Reader (List α)
  | list settings => elements read 0 settings
  | setting => fail (.wrongType setting "a sequence")

/-- A type that is a choice between named values. -/
structure Choice (α : Type) where
  typeName : String
  variants : List (String × α)

def Choice.named (choice : Choice α) (name : String) : Except ReadError α :=
  match choice.variants.lookup name with
  | some value => .ok value
  | none => fail (.unknownVariant name (choice.variants.map (·.1)))

/-- The named value, or a table with the name as its only entry, whose setting has to be nothing. -/
def Choice.read (choice : Choice α) (dialect : Dialect) : Reader α
  | text name => choice.named name
  | table entries =>
    match dialect, entries with
    | .document, [(name, setting)] => do
      let value ← choice.named name
      match setting with
      | nothing => return value
      | other => fail (.wrongType other "unit")
    | .document, _ => fail (.notSingle (table entries) "map with a single key")
    | .layers, [] => fail (.wrongType (table entries) "enum")
    | .layers, (name, setting) :: _ =>
      within name do
        let value ← choice.named name
        match setting with
        | nothing => return value
        | other => fail (.wrongType other "unit")
  | setting =>
    match dialect with
    | .document => fail (.wrongType setting "string or map")
    | .layers => fail (.wrongType setting ("enum " ++ choice.typeName))

structure Field (α : Type) where
  name : String
  isRequired : Bool := false
  read : Setting → α → Except ReadError α

structure Record (α : Type) where
  typeName : String
  /-- The record with all its fields at their defaults. -/
  initial : α
  /-- The fields in the order of their declaration. -/
  fields : List (Field α)

namespace Record

variable (record : Record α)

/-- Reads the entries of a table that belong to a field; the others do not matter. -/
def readEntries : Entries → α → Except ReadError α
  | [], value => .ok value
  | (name, setting) :: rest, value =>
    match record.fields.find? (·.name = name) with
    | none => readEntries rest value
    | some field => do
      let value ← within name (field.read setting value)
      readEntries rest value

def firstMissing (entries : Entries) : Option (Field α) :=
  record.fields.find? fun field => field.isRequired && (entries.lookup field.name).isNone

def lengthText : String :=
  let count := record.fields.length
  "struct " ++ record.typeName ++ " with " ++ toString count ++
    if count = 1 then " element" else " elements"

/-- Reads one element after the other into the fields. -/
def readElements (index : Nat) :
    List (Field α) → List Setting → α → Except ReadError (α × List Setting)
  | [], rest, value => .ok (value, rest)
  | field :: fields, [], value =>
    if field.isRequired then fail (.wrongLength index record.lengthText)
    else readElements (index + 1) fields [] value
  | field :: fields, setting :: rest, value => do
    let value ← within (toString index) (field.read setting value)
    readElements (index + 1) fields rest value

def read (dialect : Dialect) : Reader α
  | table entries => do
    let value ← record.readEntries entries record.initial
    match record.firstMissing entries with
    | some field => fail (.missingField field.name)
    | none => return value
  | list settings => do
    let (value, rest) ← record.readElements 0 record.fields settings record.initial
    if dialect = .document && !rest.isEmpty then
      fail (.wrongLength settings.length "fewer elements in array")
    else return value
  | setting => fail (.wrongType setting ("struct " ++ record.typeName))

end Record

end Reader

end Unconference
