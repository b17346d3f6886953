import Unconference.Ledger

/-!
# Slots

A slot holds the discussions that run side by side, in the order in which they were put there, and
who attends which of them.  A user attends one discussion of a slot at most: the one they like
best, and of several equally liked ones the one that came first.  Users with no interest in any of
the discussions attend none.

`assign` and `remove` keep attendance up to date as they go and tell how much score the change
brings or costs; `gain` and `loss` tell the same beforehand.  `refreshed` works attendance out
anew, which is needed when the interests have changed since.
-/

namespace Unconference

structure Slot where
  discussions : List DiscussionId := []
  attendance : IdMap UserId DiscussionId := ∅
deriving DecidableEq

namespace Slot

instance : EmptyCollection Slot := ⟨{}⟩

instance : Inhabited Slot := ⟨∅⟩

def contains (slot : Slot) (discussion : DiscussionId) : Bool :=
  slot.discussions.contains discussion

def isEmpty (slot : Slot) : Bool := slot.discussions.isEmpty

def attending (slot : Slot) (user : UserId) : Option DiscussionId := slot.attendance.get? user

/-- Who attends `discussion`, ascending. -/
def attendees (slot : Slot) (discussion : DiscussionId) : List UserId :=
  (slot.attendance.entries.filter fun (_, attended) => attended = discussion).map (·.1)

/-- The slot with `user` in `discussion`. -/
def seat (slot : Slot) (user : UserId) (discussion : DiscussionId) : Slot :=
  { slot with attendance := slot.attendance.insert user discussion }

/-- The slot with `user` in none of its discussions. -/
def unseat (slot : Slot) (user : UserId) : Slot :=
  { slot with attendance := slot.attendance.erase user }

theorem attending_seat (slot : Slot) (user other : UserId) (discussion : DiscussionId) :
    (slot.seat user discussion).attending other =
      if user = other then some discussion else slot.attending other := by
  by_cases h : user = other
  · subst h
    simp [seat, attending]
  · simp [seat, attending, h, IdMap.get?_insert_of_ne _ _ h]

theorem attending_unseat (slot : Slot) (user other : UserId) :
    (slot.unseat user).attending other = if user = other then none else slot.attending other := by
  by_cases h : user = other
  · subst h
    simp [unseat, attending]
  · simp [unseat, attending, h, IdMap.get?_erase_of_ne _ h]

/-- The points a user gives to what they attend in this slot. -/
def currentInterest (slot : Slot) (ledger : Ledger) (user : UserId) : Nat :=
  match slot.attending user with
  | some discussion => ledger.interest user discussion
  | none => 0

/-- Seats a user in `discussion` if they like it better than what they attend. -/
def offer (ledger : Ledger) (discussion : DiscussionId) (slot : Slot) (wish : UserId × Nat) :
    Slot :=
  if slot.currentInterest ledger wish.1 < wish.2 then slot.seat wish.1 discussion else slot

/-- Offers a discussion to everybody who is interested in it. -/
def offerToAll (ledger : Ledger) (slot : Slot) (discussion : DiscussionId) : Slot :=
  (ledger.interested discussion).foldl (offer ledger discussion) slot

/-- The slot with its attendance worked out anew from the ledger. -/
def refreshed (slot : Slot) (ledger : Ledger) : Slot :=
  slot.discussions.foldl (offerToAll ledger) { slot with attendance := ∅ }

/-- Who would change over to `discussion`, and how much each of them would gain.  A user who likes
it as much as what they attend stays there. -/
def switchers (slot : Slot) (ledger : Ledger) (discussion : DiscussionId) : List (UserId × Nat) :=
  (ledger.interested discussion).filterMap fun (user, points) =>
    let current := slot.currentInterest ledger user
    if current < points then some (user, points - current) else none

/-- The score that `assign` would add. -/
def gain (slot : Slot) (ledger : Ledger) (discussion : DiscussionId) : Nat :=
  if slot.contains discussion then 0
  else total ((slot.switchers ledger discussion).map (·.2))

/-- Puts `discussion` into the slot and seats everybody who changes over to it.  The number is the
score this adds.  A discussion that is there already stays as it is. -/
def assign (slot : Slot) (ledger : Ledger) (discussion : DiscussionId) : Slot × Nat :=
  if slot.contains discussion then (slot, 0)
  else
    let (seated, added) := (slot.switchers ledger discussion).foldl
      (fun (slot, added) (user, gained) => (slot.seat user discussion, added + gained)) (slot, 0)
    ({ seated with discussions := seated.discussions ++ [discussion] }, added)

/-- The discussion that `user` likes best among `others`, the first of several equally liked ones,
and the points they give it.  One they have no interest in does not count. -/
def favourite (ledger : Ledger) (user : UserId) (others : List DiscussionId) :
    Option (DiscussionId × Nat) :=
  others.foldl
    (fun best other =>
      let points := ledger.interest user other
      if (match best with | some (_, most) => most | none => 0) < points then some (other, points)
      else best)
    none

/-- Where an attendee of a removed discussion goes and what their move costs. -/
structure Departure where
  user : UserId
  replacement : Option DiscussionId
  cost : Nat

/-- How `user` leaves `discussion` for another one of the slot, or for none. -/
def departure (slot : Slot) (ledger : Ledger) (discussion : DiscussionId) (user : UserId) :
    Departure :=
  let best := favourite ledger user (slot.discussions.filter (· ≠ discussion))
  { user
    replacement := best.map (·.1)
    cost := ledger.interest user discussion - (match best with | some (_, p) => p | none => 0) }

def departures (slot : Slot) (ledger : Ledger) (discussion : DiscussionId) : List Departure :=
  (slot.attendees discussion).map (slot.departure ledger discussion)

/-- The score that `remove` would lose. -/
def loss (slot : Slot) (ledger : Ledger) (discussion : DiscussionId) : Nat :=
  if slot.contains discussion then
    total ((slot.departures ledger discussion).map Departure.cost)
  else 0

def depart (slot : Slot) (departure : Departure) : Slot :=
  match departure.replacement with
  | some other => slot.seat departure.user other
  | none => slot.unseat departure.user

/-- Takes `discussion` out of the slot; its attendees go to what they like best of the rest.  The
number is the score this loses.  Nothing happens if the discussion is not there. -/
def remove (slot : Slot) (ledger : Ledger) (discussion : DiscussionId) : Slot × Nat :=
  if slot.contains discussion then
    let (left, lost) := (slot.departures ledger discussion).foldl
      (fun (slot, lost) departure => (slot.depart departure, lost + departure.cost)) (slot, 0)
    ({ left with discussions := left.discussions.filter (· ≠ discussion) }, lost)
  else (slot, 0)

end Slot

end Unconference
