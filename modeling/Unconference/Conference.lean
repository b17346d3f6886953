import Unconference.RunState
import Unconference.Search.Run
import Unconference.Timetable

/-!
# Conferences

A conference is the live data: the ledger, the locked slots, the committed schedule, the timetable
that shows it, and whether all that is up to date.  Every operation answers together with the
conference after it.

A search is started by `startSearch`, which hands out the snapshot to search, and ends with either
`commit` or `abortSearch`.  Meanwhile the conference may change; what must not change is a slot
that has become locked in the meantime.
-/

namespace Unconference

structure Conference where
  ledger : Ledger := ∅
  locked : SlotSet := ∅
  schedule : Option Schedule := none
  timetable : Timetable := {}
  state : RunState := {}
deriving DecidableEq

namespace Conference

instance : Inhabited Conference := ⟨{}⟩

def new (timetable : Timetable) : Conference := { timetable }

/-- The conference after an operation on its ledger; a successful one counts as a change. -/
def withLedger {α : Type} (conference : Conference) (answer : Except Refusal α × Ledger) :
    Except Refusal α × Conference :=
  match answer with
  | (.error refusal, ledger) => (.error refusal, { conference with ledger })
  | (.ok result, ledger) =>
    (.ok result, { conference with ledger, state := conference.state.modified })

def addUser (conference : Conference) (name : String) : UserId × Conference :=
  let (user, ledger) := conference.ledger.addUser name
  (user, { conference with ledger, state := conference.state.modified })

def addDiscussion (conference : Conference) (owner : UserId) (title : String) (isPublic : Bool) :
    Except Refusal DiscussionId × Conference :=
  conference.withLedger
    (conference.ledger.addDiscussion owner title isPublic conference.timetable.slotCount)

def setInterest (conference : Conference) (user : UserId) (discussion : DiscussionId)
    (value : Int) : Except Refusal Unit × Conference :=
  conference.withLedger (conference.ledger.setInterest user discussion value)

def setPublic (conference : Conference) (discussion : DiscussionId) (isPublic : Bool) :
    Except Refusal Unit × Conference :=
  conference.withLedger (conference.ledger.setPublic discussion isPublic)

def setPossibleSlots (conference : Conference) (discussion : DiscussionId)
    (possibleSlots : SlotSet) : Except Refusal Unit × Conference :=
  conference.withLedger (conference.ledger.setPossibleSlots discussion possibleSlots)

def setLockedSlots (conference : Conference) (locked : SlotSet) : Conference :=
  { conference with
    locked
    timetable := conference.timetable.withLocks locked
    state := conference.state.modified }

/-- Takes a snapshot and counts a search as running. -/
def startSearch (conference : Conference) (validation : Validation) :
    Except Refusal Snapshot × Conference :=
  if conference.state.isRunning then (.error .searchInProgress, conference)
  else
    match Snapshot.take conference.ledger conference.locked conference.timetable.slotCount
        conference.schedule validation with
    | .error refusal => (.error refusal, conference)
    | .ok snapshot =>
      match conference.state.started with
      | (.error refusal, state) => (.error refusal, { conference with state })
      | (.ok (), state) => (.ok snapshot, { conference with state })

/-- The discussions that a schedule, if there is one, has in a slot. -/
def listedAt (schedule : Option Schedule) (index : Nat) : List DiscussionId :=
  (schedule.bind (·.discussionsAt index)).getD []

/-- The first slot that is locked now, was not when `schedule` was searched, and would change. -/
def lockedSinceSnapshot (conference : Conference) (schedule : Schedule) : Option Nat :=
  conference.locked.toList.find? fun index =>
    !schedule.isLocked index &&
      decide (listedAt (some schedule) index ≠ listedAt conference.schedule index)

def abortSearch (conference : Conference) : Conference :=
  { conference with state := conference.state.failed }

/-- Replaces the committed schedule and shows the new one.  If it would change a slot locked since,
or cannot be shown, the search counts as failed. -/
def commit (conference : Conference) (schedule : Schedule) : Except Refusal Unit × Conference :=
  match conference.lockedSinceSnapshot schedule with
  | some index => (.error (.inconsistent (.lockedSlotChanged index)), conference.abortSearch)
  | none =>
    match conference.timetable.place schedule conference.ledger with
    | (.error cause, _) => (.error (.inconsistent cause), conference.abortSearch)
    | (.ok (), timetable) =>
      (.ok (),
        { conference with
          schedule := some schedule
          timetable := timetable.withLocks conference.locked
          state := conference.state.succeeded })

end Conference

end Unconference
