import Unconference.Setting
import Unconference.Text.Blank
import Unconference.Text.Scan

/-!
# Settings from the environment

An environment variable whose name begins with `SCHED_`, in any case, is a setting.  The rest of
its name, in lower case, is the path of the setting, two underscores or a point separating the names
of the path.  Its value is a truth value, a number, a quoted text, a single character in single
quotes, a list in brackets, a table in braces, or else the text itself; so is a value that merely
begins like one of these.
-/

namespace Unconference.Environment

open Text

def namePrefix : List Char := ['s', 'c', 'h', 'e', 'd', '_']

/-- A name with a point in place of each two underscores, from the left. -/
def pointed : List Char → List Char
  | '_' :: '_' :: rest => '.' :: pointed rest
  | c :: rest => c :: pointed rest
  | [] => []

def parts (name : List Char) : List String :=
  (String.ofList name).splitOn "."

/-- The path that the name of a variable stands for, if it is one of a setting and all its parts
have a name. -/
def settingPath (name : String) : Option (List String) := do
  let rest ← after namePrefix ((trimmed name.toList).map Char.toLower)
  let path := parts (trimmed (pointed rest))
  if path.contains "" then none else some path

def skipWhiteSpace (input : List Char) : List Char := input.dropWhile isAsciiWhiteSpace

def isDigit (c : Char) : Bool := '0' ≤ c && c ≤ '9'

/-- Splits off a sign; true is for the minus sign. -/
def sign : List Char → Option Bool × List Char
  | '-' :: rest => (some true, rest)
  | '+' :: rest => (some false, rest)
  | chars => (none, chars)

/-- The value of one digit or more. -/
def digits (chars : List Char) : Option Nat :=
  if chars.isEmpty || !chars.all isDigit then none else digitsValue 10 chars

/-- A whole number without a minus sign, of 64 bits. -/
def unsigned (chars : List Char) : Option Setting := do
  match sign chars with
  | (some true, _) => none
  | (_, rest) =>
    let value ← digits rest
    if value < UInt64.size then some (.unsigned value) else none

/-- A whole number of 64 bits with its sign. -/
def signed (chars : List Char) : Option Setting := do
  let (minus, rest) := sign chars
  let size ← digits rest
  Setting.ofInt? (if minus = some true then -size else size)

/-- The exponent behind the letter of a power of ten; zero if there is none. -/
def powerOfTen : List Char → Option Int
  | [] => some 0
  | _ :: chars => do
    let (minus, rest) := sign chars
    let size : Int ← (digits rest).map Int.ofNat
    return if minus = some true then -size else size

/-- A number with a point: digits on one side of it at least, and a power of ten behind, if any. -/
def real (chars : List Char) : Option Setting := do
  let (minus, rest) := sign chars
  let (mantissa, power) := span (fun c => c ≠ 'e' && c ≠ 'E') rest
  let (whole, fraction) := span (· ≠ '.') mantissa
  let fraction := fraction.drop 1
  let value ← digits (whole ++ fraction)
  let exponent ← powerOfTen power
  return .real (.finite (minus = some true) value (exponent - fraction.length))

def word (chars : List Char) : Setting :=
  let number := (unsigned chars).or (signed chars)
  ((if chars.contains '.' then (real chars).or number else number)).getD
    (.text (String.ofList chars))

def isSeparator (c : Char) : Bool :=
  c = ',' || c = '[' || c = ']' || c = '\x7b' || c = '\x7d'

/-- Why reading a value ends early. -/
inductive Stop where
  /-- The value is not what it begins like. -/
  | mismatch
  /-- A character was cut into pieces, which breaks everything off. -/
  | brokenCharacter
deriving DecidableEq

/-- Reads the front of the input and answers with the input behind it. -/
abbrev Reading (α : Type) := List Char → Except Stop (α × List Char)

/-- The front of a list of characters that takes `count` bytes, if that many bytes end with a
character. -/
def firstBytes : Nat → List Char → Option (List Char)
  | 0, _ => some []
  | _, [] => none
  | count, c :: rest =>
    if c.utf8Size ≤ count then (firstBytes (count - c.utf8Size) rest).map (c :: ·) else none

/-- Whether a closing quote follows.  One with a backslash in front of it is none. -/
def isClosed : List Char → Bool
  | [] => false
  | '"' :: _ => true
  | '\\' :: _ :: rest => isClosed rest
  | _ :: rest => isClosed rest

/-- A text behind its opening quote.  Of what stands in front of the first backslash only as many
bytes are kept as there are characters, which is everything unless some of them are longer. -/
def quotedText : Reading (List Char) := fun input => do
  let (front, behind) := span (fun c => c ≠ '"' && c ≠ '\\') input
  if !isClosed behind || !front.all isPlain then throw .mismatch
  let kept ←
    if behind.head? = some '"' then pure front
    else ((firstBytes front.length front).elim (throw .brokenCharacter) pure)
  match quotedRest behind with
  | some (chars, rest) => return (kept ++ chars, rest)
  | none => throw .mismatch

def isKeyChar (c : Char) : Bool := c.isAlphanum || c = '_' || c = '-'

/-- The name of an entry of a table: quoted, or a run of letters, digits and dashes. -/
def key : Reading String
  | '"' :: rest => do
    let (chars, rest) ← quotedText rest
    return (String.ofList chars, rest)
  | input =>
    let (chars, rest) := span isKeyChar input
    if chars.isEmpty then throw .mismatch else return (String.ofList chars, rest)

mutual

/-- A value and the white space around it; `depth` bounds how much can follow. -/
def value : Nat → Reading Setting
  | 0, _ => throw .mismatch
  | depth + 1, input => do
    let (setting, rest) ← bareValue depth (skipWhiteSpace input)
    return (setting, skipWhiteSpace rest)

def bareValue : Nat → Reading Setting
  | 0, _ => throw .mismatch
  | depth + 1, input =>
    match input with
    | 't' :: 'r' :: 'u' :: 'e' :: rest => return (.truth true, rest)
    | 'f' :: 'a' :: 'l' :: 's' :: 'e' :: rest => return (.truth false, rest)
    | '\x7b' :: rest => do
      let (pairs, rest) ← pairs depth rest
      return (.table (Setting.sorted pairs), rest)
    | '[' :: rest => do
      let (elements, rest) ← elements depth rest
      return (.list elements, rest)
    | '"' :: rest => do
      let (chars, rest) ← quotedText rest
      return (.text (String.ofList chars), rest)
    | '\'' :: c :: '\'' :: rest => return (.character c, rest)
    | '\'' :: _ => throw .mismatch
    | input =>
      let (chars, rest) := span (!isSeparator ·) input
      return (word (trimmed chars), rest)

/-- The elements of a list up to its closing bracket, the last of which may have a comma behind. -/
def elements : Nat → Reading (List Setting)
  | 0, _ => throw .mismatch
  | depth + 1, input =>
    match input with
    | ']' :: rest => return ([], rest)
    | input => do
      let (first, rest) ← value depth input
      match rest with
      | ',' :: rest =>
        let (others, rest) ← elements depth rest
        return (first :: others, rest)
      | ']' :: rest => return ([first], rest)
      | _ => throw .mismatch

/-- The entries of a table up to its closing brace. -/
def pairs : Nat → Reading (List (String × Setting))
  | 0, _ => throw .mismatch
  | depth + 1, input =>
    match input with
    | '\x7d' :: rest => return ([], rest)
    | input => do
      let (name, rest) ← key (skipWhiteSpace input)
      match skipWhiteSpace rest with
      | '=' :: rest =>
        let (setting, rest) ← value depth rest
        match rest with
        | ',' :: rest =>
          let (others, rest) ← pairs depth rest
          return ((name, setting) :: others, rest)
        | '\x7d' :: rest => return ([(name, setting)], rest)
        | _ => throw .mismatch
      | _ => throw .mismatch

end

/-- What a value stands for; there is no answer if reading it breaks off. -/
def settingOf? (content : String) : Option Setting :=
  let input := content.toList
  match value (3 * input.length + 3) input with
  | .ok (setting, []) => some setting
  | .error .brokenCharacter => none
  | _ => some (.text content)

/-- The settings of the environment; of two for the same path the later one counts.  There is no
answer if reading one of them breaks off. -/
def entries? (environment : List (String × String)) : Option Setting.Entries :=
  environment.foldlM
    (fun entries (name, content) =>
      match settingPath name with
      | some path => do
        return Setting.overlay entries (Setting.nested path (← settingOf? content))
      | none => some entries)
    []

end Unconference.Environment
