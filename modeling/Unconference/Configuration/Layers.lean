import Unconference.Configuration
import Unconference.Configuration.Wrapped
import Unconference.Environment
import Unconference.Toml.Document

/-!
# Configuration by file and environment

A configuration is read from a file, if there is one, with the environment over it.
-/

namespace Unconference

inductive LoadError where
  /-- A character in a variable was cut into pieces. -/
  | brokenVariable
  /-- The file is no TOML document, or a table in it has a label. -/
  | malformedFile
  | misread (error : ReadError)

def LoadError.message : LoadError → String
  | brokenVariable => "the value of a variable was cut within a character"
  | malformedFile => "the configuration file is not well formed"
  | misread error => error.fault.message .layers

namespace Configuration

/-- The entries of the file; without a file there are none. -/
def fileEntries : Option String → Except LoadError Setting.Entries
  | none => .ok []
  | some text =>
    match (Toml.parse text).bind Setting.unwrappedFile with
    | some entries => .ok entries
    | none => .error .malformedFile

def load (file : Option String) (environment : List (String × String)) :
    Except LoadError Configuration := do
  match Environment.entries? environment with
  | none => .error .brokenVariable
  | some above =>
    let below ← fileEntries file
    (ofSetting .layers (.table (Setting.overlay below above))).mapError .misread

end Configuration

end Unconference
