/-!
# Directories

The files that the program reads and writes lie in one directory without directories of its own, or
in those above it.  A path names a file there by its last component; empty components and single
dots in front of it do not count, two dots lead one directory up, and behind it a slash asks for a
directory.  Everything that would lie elsewhere is missing.
-/

namespace Unconference

inductive FileError where
  | notFound
  | notDirectory
  | isDirectory
  | nameTooLong
  | nulInName
deriving DecidableEq

def FileError.message : FileError → String
  | notFound => "No such file or directory (os error 2)"
  | notDirectory => "Not a directory (os error 20)"
  | isDirectory => "Is a directory (os error 21)"
  | nameTooLong => "File name too long (os error 36)"
  | nulInName => "file name contained an unexpected NUL byte"

/-- File names with the texts of the files.  A name has two dots and a slash in front for each
directory that the file lies further up. -/
structure Directory where
  files : List (String × String) := []
deriving DecidableEq

namespace Directory

instance : EmptyCollection Directory := ⟨{}⟩

/-- The most bytes that a file name may have. -/
def longestName : Nat := 255

/-- The most bytes that a path may have. -/
def longestPath : Nat := 4095

def lookUp (directory : Directory) (name : String) : Option String :=
  (directory.files.find? (·.1 = name)).map (·.2)

/-- What a path leads to: a file of the directory, if there is one of that name, or a directory. -/
inductive Target where
  | file (name : String)
  | directory

/-- Follows the components of a path from the directory that `above` leads up to. -/
def follow (directory : Directory) (above : String) : List String → Except FileError Target
  | [] => .ok .directory
  | component :: rest =>
    if component = "" || component = "." then follow directory above rest
    else if component = ".." then follow directory (above ++ "../") rest
    else if !rest.isEmpty && rest.all (· = "") then .ok .directory
    else if longestName < component.utf8ByteSize then .error .nameTooLong
    else if rest.isEmpty then .ok (.file (above ++ component))
    else if (directory.lookUp (above ++ component)).isSome then .error .notDirectory
    else .error .notFound

/-- Where a path leads.  An empty path leads nowhere, and one from the root only to directories. -/
def resolve (directory : Directory) (path : String) : Except FileError Target :=
  if path.toList.contains '\x00' then .error .nulInName
  else if longestPath < path.utf8ByteSize then .error .nameTooLong
  else
    match path.splitOn "/" with
    | [""] => .error .notFound
    | "" :: rest => (follow ∅ "" rest).bind fun
      | .file _ => .error .notFound
      | .directory => .ok .directory
    | components => directory.follow "" components

def read (directory : Directory) (path : String) : Option String :=
  match directory.resolve path with
  | .ok (.file name) => directory.lookUp name
  | _ => none

/-- The directory without a file. -/
def erase (directory : Directory) (name : String) : Directory where
  files := directory.files.filter (·.1 ≠ name)

def write (directory : Directory) (path text : String) : Except FileError Unit × Directory :=
  match directory.resolve path with
  | .ok (.file name) =>
    (.ok (), { files := (name, text) :: (directory.erase name).files })
  | .ok .directory => (.error .isDirectory, directory)
  | .error error => (.error error, directory)

end Directory

end Unconference
