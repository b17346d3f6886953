import Unconference.Program

/-!
# The command line

Reads `scheduler.toml` from the working directory or the nearest one above it, and the environment,
and runs the program on the real files.  Searches are timed by a clock that counts a millisecond for
each schedule built.
-/

namespace Unconference

def readText (path : String) : IO (Option String) := do
  try
    return some (← IO.FS.readFile path)
  catch _ => return none

/-- The configuration file of the working directory, or of the nearest directory above. -/
def findFile (levels : Nat) : IO (Option String) := do
  let mut above := ""
  for _ in [0:levels] do
    match ← readText (above ++ "scheduler.toml") with
    | some text => return some text
    | none => above := above ++ "../"
  return none

def readVariables : IO (List (String × String)) := do
  match ← readText "/proc/self/environ" with
  | none => return []
  | some text =>
    return (text.splitOn "\x00").filterMap fun entry =>
      match entry.splitOn "=" with
      | name :: first :: rest => some (name, "=".intercalate (first :: rest))
      | _ => none

/-- Writes the timetable; that this fails is no reason to stop. -/
def storeText (path text : String) : IO Unit := do
  try
    IO.FS.writeFile path text
  catch error => IO.eprintln ("persisting timetable failed: IO error: " ++ toString error)

def randomWord : IO UInt32 := do
  let bytes ← IO.getRandomBytes 4
  return bytes.toList.foldl (fun word byte => word * 256 + byte.toUInt32) 0

def randomKey : IO Key := Vector.ofFnM fun _ => randomWord

/-- Says what went wrong and answers with the exit code. -/
def report (failure : Program.Failure) : IO UInt32 := do
  IO.eprintln ("Error: " ++ failure.message)
  return failure.exitCode.toUInt32

def runProgram : IO UInt32 := do
  let levels := ((← IO.currentDir).toString.splitOn "/").length
  let file ← findFile levels
  match Configuration.load file (← readVariables) with
  | .error error => report (.configuration error)
  | .ok configuration =>
    match Program.commit configuration {} (← randomKey) with
    | (.error error, _) => report (.scheduler error)
    | (.ok committed, scheduler) =>
      if let some path := configuration.persistPath then
        storeText path committed.timetable.document.print
      match Program.output scheduler with
      | .error error => report (.scheduler error)
      | .ok text =>
        IO.print text
        return 0

end Unconference

def main : IO UInt32 := Unconference.runProgram
