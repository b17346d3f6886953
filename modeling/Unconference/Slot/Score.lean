import Unconference.Slot.Basic

/-!
# Scores

A discussion achieves the points of its attendees and misses those of everybody else who is
interested in it.  Before a slot is scored its attendance is compared with the ledger: a user who
attends something they like less than another discussion of the slot is moved there, or, under
strict validation, reported.  One move settles a user for good, so there are never more moves than
users, which bounds the loop.
-/

namespace Unconference

/-- Achieved and missed interest. -/
structure Score where
  score : Nat := 0
  missed : Nat := 0
deriving DecidableEq

instance : Add Score := ⟨fun a b => ⟨a.score + b.score, a.missed + b.missed⟩⟩

instance : Zero Score := ⟨{}⟩

@[simp] theorem Score.score_add (a b : Score) : (a + b).score = a.score + b.score := rfl

@[simp] theorem Score.missed_add (a b : Score) : (a + b).missed = a.missed + b.missed := rfl

@[simp] theorem Score.score_zero : (0 : Score).score = 0 := rfl

@[simp] theorem Score.missed_zero : (0 : Score).missed = 0 := rfl

instance : Inhabited Score := ⟨0⟩

/-- What to do about inconsistent data: mend it, or give up. -/
inductive Validation where
  | production
  | strict
deriving DecidableEq

namespace Slot

/-- Everybody interested in `discussion` who does not attend it here, ascending. -/
def missing (slot : Slot) (ledger : Ledger) (discussion : DiscussionId) : List UserId :=
  ((ledger.interested discussion).filter fun (user, _) =>
    slot.attending user ≠ some discussion).map (·.1)

/-- The score of one discussion.  A user who misses it counts, whatever else they miss. -/
def discussionScore (slot : Slot) (ledger : Ledger) (discussion : DiscussionId) : Score :=
  (ledger.interested discussion).foldl
    (fun total (user, points) =>
      total + if slot.attending user = some discussion then ⟨points, 0⟩ else ⟨0, points⟩)
    0

/-- A user together with the discussion they would rather attend. -/
structure Grievance where
  user : UserId
  preferred : DiscussionId

/-- What `user`, who would rather attend `discussion`, likes best of the whole slot: the first of
several equally liked ones, with `discussion` in front. -/
def preferred (slot : Slot) (ledger : Ledger) (user : UserId) (discussion : DiscussionId)
    (points : Nat) : DiscussionId :=
  (slot.discussions.foldl
    (fun (best, most) other =>
      let points := ledger.interest user other
      if most < points then (other, points) else (best, most))
    (discussion, points)).1

/-- The first user interested in `discussion` who attends something they like less. -/
def grievanceIn (slot : Slot) (ledger : Ledger) (discussion : DiscussionId) : Option Grievance :=
  (ledger.interested discussion).findSome? fun (user, points) =>
    if slot.currentInterest ledger user < points then
      some { user, preferred := slot.preferred ledger user discussion points }
    else none

/-- The first user, by discussion and then by number, who does not attend their favourite. -/
def grievance (slot : Slot) (ledger : Ledger) : Option Grievance :=
  slot.discussions.findSome? (slot.grievanceIn ledger)

/-- Settles grievances one by one, as many as `moves` allows. -/
def settledWithin (ledger : Ledger) : Nat → Slot → Slot
  | 0, slot => slot
  | moves + 1, slot =>
    match slot.grievance ledger with
    | none => slot
    | some grievance => settledWithin ledger moves (slot.seat grievance.user grievance.preferred)

/-- The slot with every user in their favourite discussion. -/
def settled (slot : Slot) (ledger : Ledger) : Slot :=
  settledWithin ledger ledger.users.length slot

/-- The slot as validation leaves it: mended, or under strict validation as it is if there is
nothing to mend. -/
def validated (slot : Slot) (ledger : Ledger) : Validation → Except Inconsistency Slot
  | .production => .ok (slot.settled ledger)
  | .strict =>
    match slot.grievance ledger with
    | none => .ok slot
    | some grievance =>
      .error (.suboptimalAttendance grievance.user
        ((slot.attending grievance.user).getD grievance.preferred) grievance.preferred)

/-- The sum over all discussions of the slot, for attendance as it is. -/
def totalScore (slot : Slot) (ledger : Ledger) : Score :=
  (slot.discussions.map (slot.discussionScore ledger)).sum

/-- Validates attendance, then scores.  The slot in the answer is the validated one. -/
def score (slot : Slot) (ledger : Ledger) (validation : Validation) :
    Except Inconsistency (Slot × Score) := do
  let slot ← slot.validated ledger validation
  return (slot, slot.totalScore ledger)

end Slot

end Unconference
