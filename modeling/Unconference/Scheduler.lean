import Unconference.Conference
import Unconference.Persistence
import Unconference.Random.KeyStream

/-!
# The scheduler

The scheduler owns a conference, which many callers share, and keeps them apart by a lock.  What is
done while the lock is held once is one of these steps, so whatever the callers do is a sequence of
them:

* an operation on the conference;
* `makeSchedule`, which takes the snapshot for a run and hands it out;
* `enter`, which takes the result of a run and commits it;
* `abandon`, which ends a run that is dropped before it has a result.

The search itself, and storing the timetable after a commit, happen without the lock.  Each run has
a guard, which is dropped when the run is over, in whichever way.  It is armed until the run enters
the lock with its result, and as long as it is armed its drop abandons the run.

Somebody who crashes while holding the lock leaves it poisoned, and nobody else gets it, except that
a guard can still abandon its run.
-/

namespace Unconference

inductive SchedulerError where
  | refused (refusal : Refusal)
  | noRuntime
  | poisoned
  /-- The run was called off before it began to search. -/
  | cancelled
  /-- The run crashed while it stored the timetable. -/
  | crashed
deriving DecidableEq

def SchedulerError.message : SchedulerError → String
  | refused refusal => "schedule error: " ++ refusal.message
  | noRuntime =>
    "no tokio runtime: there is no reactor running, must be called from the context of a Tokio " ++
      "1.x runtime"
  | poisoned => "poison error: poisoned lock: another task failed inside"
  | cancelled => "cancelled"
  | crashed => "panicked"

/-- A search that has its snapshot and has not ended yet. -/
structure Run where
  snapshot : Snapshot
  options : SearchOptions
deriving DecidableEq

structure RunReport where
  strategy : Strategy
  heuristicScore : Option Nat
  randomScore : Option Nat
  candidates : Nat
  score : Score
  /-- The data changed while the search ran. -/
  isStale : Bool
  persistError : Option String
deriving DecidableEq

/-- What a run takes along from the lock: its outcome, the timetable to store and whether the data
has changed. -/
structure Committed where
  outcome : SearchOutcome
  timetable : Timetable
  isStale : Bool
deriving DecidableEq

def Committed.report (committed : Committed) (persistError : Option String) : RunReport where
  strategy := committed.outcome.strategy
  heuristicScore := committed.outcome.heuristicScore
  randomScore := committed.outcome.randomScore
  candidates := committed.outcome.candidates
  score := committed.outcome.score
  isStale := committed.isStale
  persistError := persistError

/-- A search whose draws were exhausted has produced nothing. -/
def SearchFailure.refusal : SearchFailure → Refusal
  | inconsistent cause => .inconsistent cause
  | drawsExhausted | noSchedule => .noSchedule

/-- The random words for a run: those of its seed, or of the key given for runs without one. -/
def SearchOptions.stream (options : SearchOptions) (entropy : Key) : KeyStream :=
  KeyStream.ofKey (match options.seed with
    | some seed => Key.ofSeed (UInt64.ofNat seed)
    | none => entropy)

def Run.search (run : Run) (clock : Clock) (entropy : Key) :
    Except SearchFailure SearchOutcome :=
  run.snapshot.search run.options clock (run.options.stream entropy)

structure Scheduler where
  conference : Conference
  isPoisoned : Bool := false
deriving DecidableEq

namespace Scheduler

def new (timetable : Timetable) : Scheduler := { conference := .new timetable }

/-- Somebody crashed while holding the lock. -/
def poison (scheduler : Scheduler) : Scheduler := { scheduler with isPoisoned := true }

/-- An operation on the conference while holding the lock. -/
def locked {α : Type} (scheduler : Scheduler)
    (operation : Conference → Except Refusal α × Conference) :
    Except SchedulerError α × Scheduler :=
  if scheduler.isPoisoned then (.error .poisoned, scheduler)
  else
    let (answer, conference) := operation scheduler.conference
    (answer.mapError .refused, { scheduler with conference })

def inspect {α : Type} (scheduler : Scheduler) (look : Conference → Except Refusal α) :
    Except SchedulerError α :=
  if scheduler.isPoisoned then .error .poisoned
  else (look scheduler.conference).mapError .refused

def addUser (scheduler : Scheduler) (name : String) : Except SchedulerError UserId × Scheduler :=
  scheduler.locked fun conference =>
    let (user, conference) := conference.addUser name
    (.ok user, conference)

def addDiscussion (scheduler : Scheduler) (owner : UserId) (title : String) (isPublic : Bool) :
    Except SchedulerError DiscussionId × Scheduler :=
  scheduler.locked (·.addDiscussion owner title isPublic)

def setInterest (scheduler : Scheduler) (user : UserId) (discussion : DiscussionId)
    (value : Int) : Except SchedulerError Unit × Scheduler :=
  scheduler.locked (·.setInterest user discussion value)

def setPublic (scheduler : Scheduler) (discussion : DiscussionId) (isPublic : Bool) :
    Except SchedulerError Unit × Scheduler :=
  scheduler.locked (·.setPublic discussion isPublic)

def setPossibleSlots (scheduler : Scheduler) (discussion : DiscussionId)
    (possibleSlots : SlotSet) : Except SchedulerError Unit × Scheduler :=
  scheduler.locked (·.setPossibleSlots discussion possibleSlots)

def setLockedSlots (scheduler : Scheduler) (lockedSlots : SlotSet) :
    Except SchedulerError Unit × Scheduler :=
  scheduler.locked fun conference => (.ok (), conference.setLockedSlots lockedSlots)

def state (scheduler : Scheduler) : Except SchedulerError RunState :=
  scheduler.inspect fun conference => .ok conference.state

def timetable (scheduler : Scheduler) : Except SchedulerError Timetable :=
  scheduler.inspect fun conference => .ok conference.timetable

/-- The score of the committed schedule for the interests as they are now. -/
def scheduleScore (scheduler : Scheduler) : Except SchedulerError Score :=
  scheduler.inspect fun conference =>
    match conference.schedule with
    | none => .error .noSchedule
    | some schedule =>
      match schedule.score conference.ledger .production with
      | .error cause => .error (.inconsistent cause)
      | .ok (_, score) => .ok score

/-- Starts a run.  Without a runtime to search on nothing is started. -/
def makeSchedule (scheduler : Scheduler) (options : SearchOptions) (hasRuntime : Bool) :
    Except SchedulerError Run × Scheduler :=
  if hasRuntime then
    match scheduler.locked (·.startSearch options.validation) with
    | (.error error, scheduler) => (.error error, scheduler)
    | (.ok snapshot, scheduler) => (.ok { snapshot, options }, scheduler)
  else (.error .noRuntime, scheduler)

/-- Ends a run without a result, also when the lock is poisoned. -/
def abandon (scheduler : Scheduler) : Scheduler :=
  { scheduler with conference := scheduler.conference.abortSearch }

/-- Drops the guard of a run. -/
def dropGuard (scheduler : Scheduler) (isArmed : Bool) : Scheduler :=
  if isArmed then scheduler.abandon else scheduler

/-- What a run does with its result while it holds the lock; if there is one it is committed.  The
answer comes with whether the guard is still armed, which it is only if the lock is not to be had:
everything that is done inside ends the run. -/
def enter (scheduler : Scheduler) (found : Except SearchFailure SearchOutcome) :
    Except SchedulerError Committed × Bool × Scheduler :=
  if scheduler.isPoisoned then (.error .poisoned, true, scheduler)
  else
    match found with
    | .error failure => (.error (.refused failure.refusal), false, scheduler.abandon)
    | .ok outcome =>
      match scheduler.conference.commit outcome.schedule with
      | (.error refusal, conference) =>
        (.error (.refused refusal), false, { scheduler with conference })
      | (.ok (), conference) =>
        (.ok { outcome, timetable := conference.timetable, isStale := conference.state.isStale },
          false, { scheduler with conference })

/-- Ends a run with its result: enters the lock, and drops the guard. -/
def finish (scheduler : Scheduler) (found : Except SearchFailure SearchOutcome) :
    Except SchedulerError Committed × Scheduler :=
  let (answer, isArmed, scheduler) := scheduler.enter found
  (answer, scheduler.dropGuard isArmed)

/-- Stores a committed timetable, after the lock is released, and reports. -/
def store (persistence : Persistence) (directory : Directory) (committed : Committed) :
    Except SchedulerError RunReport × Directory :=
  match persistence committed.timetable directory with
  | (.saved, directory) => (.ok (committed.report none), directory)
  | (.failed message, directory) => (.ok (committed.report (some message)), directory)
  | (.crashed, directory) => (.error .crashed, directory)

/-- A whole run from its search to its report, if nothing else happens meanwhile. -/
def complete (scheduler : Scheduler) (run : Run) (clock : Clock) (entropy : Key)
    (persistence : Persistence) (directory : Directory) :
    Except SchedulerError RunReport × Scheduler × Directory :=
  match scheduler.finish (run.search clock entropy) with
  | (.error error, scheduler) => (.error error, scheduler, directory)
  | (.ok committed, scheduler) =>
    let (report, directory) := store persistence directory committed
    (report, scheduler, directory)

/-- Calls a run off before it begins to search. -/
def callOff (scheduler : Scheduler) : SchedulerError × Scheduler :=
  (.cancelled, scheduler.dropGuard true)

end Scheduler

end Unconference
