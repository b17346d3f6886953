import Unconference.Configuration.Layers
import Unconference.SampleEvent

/-!
# The program

The program reads its configuration, enters the sample event, searches a schedule for it, stores the
timetable where the configuration says and prints it.  A timetable that cannot be stored does not
stop it; everything else that goes wrong does, and then it prints nothing.
-/

namespace Unconference.Program

inductive Failure where
  | configuration (error : LoadError)
  | scheduler (error : SchedulerError)

def Failure.message : Failure → String
  | configuration error => "config error: " ++ error.message
  | scheduler error => error.message

/-- What the program ends with instead of zero. -/
def Failure.exitCode : Failure → Nat
  | configuration .brokenVariable => 101
  | configuration _ | scheduler _ => 1

def start (configuration : Configuration) : Except SchedulerError Run × Scheduler :=
  match SampleEvent.enter (Scheduler.new configuration.timetable) with
  | (.error error, scheduler) => (.error error, scheduler)
  | (.ok (), scheduler) => scheduler.makeSchedule configuration.search true

/-- Searches and commits, so that only storing the timetable is left to do. -/
def commit (configuration : Configuration) (clock : Clock) (entropy : Key) :
    Except SchedulerError Committed × Scheduler :=
  match start configuration with
  | (.error error, scheduler) => (.error error, scheduler)
  | (.ok run, scheduler) => scheduler.finish (run.search clock entropy)

def output (scheduler : Scheduler) : Except SchedulerError String :=
  scheduler.timetable.map fun timetable => timetable.document.print ++ "\n"

/-- The whole program, for a clock and a key in case the configuration has no seed. -/
def run (file : Option String) (environment : List (String × String)) (clock : Clock)
    (entropy : Key) (directory : Directory) : Except Failure String × Directory :=
  match Configuration.load file environment with
  | .error error => (.error (.configuration error), directory)
  | .ok configuration =>
    match commit configuration clock entropy with
    | (.error error, _) => (.error (.scheduler error), directory)
    | (.ok committed, scheduler) =>
      match Scheduler.store (Persistence.toFile? configuration.persistPath) directory committed with
      | (.error error, directory) => (.error (.scheduler error), directory)
      | (.ok _, directory) => ((output scheduler).mapError .scheduler, directory)

end Unconference.Program
