import Unconference.Schedule

/-!
# Timetables

A timetable is the calendar with its rooms and with what runs where.  Breaks hold no discussions;
the other slots, in calendar order, correspond to the slots of a schedule.  Of the locations, all
but the last are places; the last takes whatever does not fit anywhere else.

Within a slot the discussions with the most attendees get the first places.
-/

namespace Unconference

structure Location where
  name : String
  capacity : Nat := 0
  isPlace : Bool := true
deriving DecidableEq

/-- A discussion as the timetable shows it.  The users are named, not numbered. -/
structure ShownDiscussion where
  id : DiscussionId
  title : String
  location : String
  attendeeCount : Nat
  score : Nat
  attending : List String
  missing : List String
deriving DecidableEq

def ShownDiscussion.locatedAt (discussion : ShownDiscussion) : Option Location → ShownDiscussion
  | some location => { discussion with location := location.name }
  | none => discussion

structure TimetableSlot where
  time : String
  isBreak : Bool := false
  isLocked : Bool := false
  discussions : List ShownDiscussion := []
deriving DecidableEq

structure Day where
  name : String
  /-- All slots of the day that are not breaks are locked. -/
  isFinal : Bool := false
  slots : List TimetableSlot := []
deriving DecidableEq

structure Timetable where
  days : List Day := []
  locations : List Location := []
deriving DecidableEq

namespace Timetable

instance : Inhabited Timetable := ⟨{}⟩

/-- The number of slots that can hold discussions. -/
def slotCount (timetable : Timetable) : Nat :=
  (timetable.days.flatMap (·.slots)).countP (!·.isBreak)

def places (timetable : Timetable) : List Location := timetable.locations.filter (·.isPlace)

/-- The last location, and no other, must not be a place. -/
def hasCatchAll (timetable : Timetable) : Bool :=
  match timetable.locations.getLast? with
  | some last => !last.isPlace && timetable.locations.dropLast.all (·.isPlace)
  | none => false

/-- The names of those users whom the ledger knows. -/
def names (ledger : Ledger) (users : List UserId) : List String :=
  users.filterMap fun user => (ledger.user? user).map (·.name)

/-- A discussion of a slot, before it has a location; `none` if the ledger does not know it. -/
def shown? (ledger : Ledger) (slot : Slot) (discussion : DiscussionId) : Option ShownDiscussion :=
  (ledger.discussion? discussion).map fun record =>
    let attending := names ledger (slot.attendees discussion)
    { id := discussion
      title := record.title
      location := ""
      attendeeCount := attending.length
      score := (slot.discussionScore ledger discussion).score
      attending
      missing := names ledger (slot.missing ledger discussion) }

/-- The place for each position of a slot: the places one by one, then the last location. -/
def locationAt (timetable : Timetable) (position : Nat) : Option Location :=
  (timetable.places[position]?).or timetable.locations.getLast?

/-- What is shown in a slot: the most attended discussion first, equally attended ones in the order
of the slot, each with its location. -/
def shownIn (timetable : Timetable) (ledger : Ledger) (slot : Slot) : List ShownDiscussion :=
  let discussions := slot.discussions.filterMap (shown? ledger slot)
  let ordered := discussions.mergeSort fun a b => b.attendeeCount ≤ a.attendeeCount
  ordered.mapIdx fun position discussion =>
    discussion.locatedAt (timetable.locationAt position)

/-- Hands out one list for every slot that is not a break, and returns what is left. -/
def fillSlots : List TimetableSlot → List (List ShownDiscussion) →
    List TimetableSlot × List (List ShownDiscussion)
  | [], shown => ([], shown)
  | slot :: rest, shown =>
    if slot.isBreak then
      let (rest, left) := fillSlots rest shown
      (slot :: rest, left)
    else
      let (rest, left) := fillSlots rest shown.tail
      ({ slot with discussions := shown.headD [] } :: rest, left)

def fillDays : List Day → List (List ShownDiscussion) → List Day
  | [], _ => []
  | day :: rest, shown =>
    let (slots, left) := fillSlots day.slots shown
    { day with slots } :: fillDays rest left

/-- Shows a schedule.  The schedule has to have as many slots as the calendar, and the locations
have to end with the one that is not a place. -/
def place (timetable : Timetable) (schedule : Schedule) (ledger : Ledger) :
    Except Inconsistency Unit × Timetable :=
  if schedule.size ≠ timetable.slotCount then
    (.error (.slotCountMismatch schedule.size timetable.slotCount), timetable)
  else if !timetable.hasCatchAll then (.error .catchAllLocation, timetable)
  else
    (.ok (),
      { timetable with
        days := fillDays timetable.days (schedule.slots.map (timetable.shownIn ledger)) })

/-- Marks the slots whose index is locked, counting those that are not breaks from `index` on, and
returns the index after them. -/
def lockSlots (locked : SlotSet) : Nat → List TimetableSlot → List TimetableSlot × Nat
  | index, [] => ([], index)
  | index, slot :: rest =>
    if slot.isBreak then
      let (rest, next) := lockSlots locked index rest
      (slot :: rest, next)
    else
      let (rest, next) := lockSlots locked (index + 1) rest
      ({ slot with isLocked := locked.contains index } :: rest, next)

def lockDays (locked : SlotSet) : Nat → List Day → List Day
  | _, [] => []
  | index, day :: rest =>
    let (slots, next) := lockSlots locked index day.slots
    { day with slots, isFinal := slots.all fun slot => slot.isBreak || slot.isLocked } ::
      lockDays locked next rest

/-- Marks the locked slots, and the days all of whose slots are locked. -/
def withLocks (timetable : Timetable) (locked : SlotSet) : Timetable :=
  { timetable with days := lockDays locked 0 timetable.days }

end Timetable

end Unconference
