import Unconference.Refusal

/-!
# Whether the schedule is up to date

Three flags tell whether anything changed since the committed schedule was searched, whether a
search is running, and whether anything changed since its snapshot was taken.  A search that
succeeds makes the schedule up to date unless something changed while it ran.
-/

namespace Unconference

inductive Phase where
  | idleClean
  | idleStale
  | running
  | runningPendingChanges
deriving DecidableEq

structure RunState where
  changedSinceSchedule : Bool := false
  changedSinceSnapshot : Bool := false
  isRunning : Bool := false
deriving DecidableEq

namespace RunState

instance : Inhabited RunState := ⟨{}⟩

def isStale (state : RunState) : Bool := state.changedSinceSchedule

def modified (state : RunState) : RunState :=
  { state with
    changedSinceSchedule := true
    changedSinceSnapshot := state.isRunning || state.changedSinceSnapshot }

/-- A search has taken its snapshot.  Only one may run. -/
def started (state : RunState) : Except Refusal Unit × RunState :=
  if state.isRunning then (.error .searchInProgress, state)
  else (.ok (), { state with isRunning := true, changedSinceSnapshot := false })

/-- The schedule of the search was committed. -/
def succeeded (state : RunState) : RunState :=
  { state with
    isRunning := false
    changedSinceSchedule := state.changedSinceSnapshot && state.changedSinceSchedule }

/-- The search ended without a schedule that could be committed. -/
def failed (state : RunState) : RunState := { state with isRunning := false }

def phase (state : RunState) : Phase :=
  match state.isRunning, state.changedSinceSchedule, state.changedSinceSnapshot with
  | false, false, _ => .idleClean
  | false, true, _ => .idleStale
  | true, _, true => .runningPendingChanges
  | true, _, false => .running

end RunState

end Unconference
