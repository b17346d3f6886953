import Unconference.Directory
import Unconference.Document.Timetable

/-!
# Persistence

After a schedule is committed its timetable is handed to a persistence, which may store it in the
directory.  Storing can fail, and it can crash; neither undoes the commit.
-/

namespace Unconference

inductive SaveOutcome where
  | saved
  | failed (message : String)
  | crashed
deriving DecidableEq

abbrev Persistence := Timetable → Directory → SaveOutcome × Directory

namespace Persistence

def nowhere : Persistence := fun _ directory => (.saved, directory)

def toFile (path : String) : Persistence := fun timetable directory =>
  match directory.write path timetable.document.print with
  | (.ok (), directory) => (.saved, directory)
  | (.error error, directory) => (.failed ("IO error: " ++ error.message), directory)

def failing (reason : String) : Persistence := fun _ directory =>
  (.failed ("IO error: " ++ reason), directory)

def crashing : Persistence := fun _ directory => (.crashed, directory)

def toFile? : Option String → Persistence
  | some path => toFile path
  | none => nowhere

end Persistence

end Unconference
