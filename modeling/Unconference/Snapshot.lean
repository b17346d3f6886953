import Unconference.Schedule

/-!
# Snapshots

A snapshot is everything a search works on, taken at one moment: the ledger, the locks, the number
of slots and the schedule committed before.  A search places the discussions of the work list, that
is all those which do not sit in a locked slot already.
-/

namespace Unconference

structure Snapshot where
  ledger : Ledger
  locked : SlotSet
  slotCount : Nat
  prior : Option Schedule
  worklist : List DiscussionId
  validation : Validation
deriving DecidableEq

/-- Whether the committed schedule has `discussion` in a locked slot. -/
def sitsInLockedSlot (prior : Option Schedule) (locked : SlotSet) (discussion : DiscussionId) :
    Bool :=
  match prior.bind (·.placement discussion) with
  | some index => locked.contains index
  | none => false

/-- Strict validation compares the two sides of the ledger first. -/
def Ledger.validate (ledger : Ledger) : Validation → Except Inconsistency Unit
  | .production => .ok ()
  | .strict => ledger.checkSymmetry

/-- Takes a snapshot.  It is refused while a discussion awaits moderation, and when there is no
slot left to fill. -/
def Snapshot.take (ledger : Ledger) (locked : SlotSet) (slotCount : Nat) (prior : Option Schedule)
    (validation : Validation) : Except Refusal Snapshot :=
  match ledger.discussionIds.filter fun discussion => !ledger.isPublic discussion with
  | [] =>
    if locked.covers slotCount then .error .allSlotsLocked
    else
      match ledger.validate validation with
      | .error cause => .error (.inconsistent cause)
      | .ok () =>
        let worklist := ledger.discussionIds.filter fun discussion =>
          !sitsInLockedSlot prior locked discussion
        .ok { ledger, locked, slotCount, prior, worklist, validation }
  | moderated => .error (.moderatedDiscussions moderated)

/-- The slot that a search starts from: as committed if it is locked, with attendance for the
interests of the snapshot, and empty otherwise. -/
def Snapshot.startingSlot (snapshot : Snapshot) (index : Nat) : Slot :=
  if snapshot.locked.contains index then
    ((snapshot.prior.bind (·.slot? index)).getD ∅).refreshed snapshot.ledger
  else ∅

/-- The schedule that a search starts from. -/
def Snapshot.template (snapshot : Snapshot) : Schedule where
  slots := (List.range snapshot.slotCount).map snapshot.startingSlot
  locked := snapshot.locked

end Unconference
