import Unconference.Slot.Score

/-!
# Schedules

A schedule has one slot for every place in the calendar where discussions can be held, in calendar
order, and knows which of them are locked.
-/

namespace Unconference

structure Schedule where
  slots : List Slot := []
  locked : SlotSet := ∅
deriving DecidableEq

namespace Schedule

instance : Inhabited Schedule := ⟨{}⟩

def slot? (schedule : Schedule) (index : Nat) : Option Slot := schedule.slots[index]?

def size (schedule : Schedule) : Nat := schedule.slots.length

def isEmpty (schedule : Schedule) : Bool := schedule.slots.isEmpty

def isLocked (schedule : Schedule) (index : Nat) : Bool := schedule.locked.contains index

/-- The first slot that holds `discussion`. -/
def placement (schedule : Schedule) (discussion : DiscussionId) : Option Nat :=
  schedule.slots.findIdx? (·.contains discussion)

/-- All discussions in the order of the slots. -/
def listings (schedule : Schedule) : List DiscussionId :=
  schedule.slots.flatMap (·.discussions)

/-- The slots a search may put `discussion` into, ascending. -/
def openSlots (schedule : Schedule) (ledger : Ledger) (discussion : DiscussionId) : List Nat :=
  (List.range schedule.size).filter fun index =>
    !schedule.isLocked index && ledger.isSlotPermitted discussion index

def modifySlot (schedule : Schedule) (index : Nat) (change : Slot → Slot) : Schedule :=
  { schedule with slots := schedule.slots.modify index change }

def assign (schedule : Schedule) (ledger : Ledger) (index : Nat) (discussion : DiscussionId) :
    Schedule :=
  schedule.modifySlot index fun slot => (slot.assign ledger discussion).1

def remove (schedule : Schedule) (ledger : Ledger) (index : Nat) (discussion : DiscussionId) :
    Schedule :=
  schedule.modifySlot index fun slot => (slot.remove ledger discussion).1

/-- Scores slot after slot, up to the first that validation rejects. -/
def scoreSlots (ledger : Ledger) (validation : Validation) :
    List Slot → Except Inconsistency (List Slot × Score)
  | [] => .ok ([], 0)
  | slot :: rest => do
    let (slot, score) ← slot.score ledger validation
    let (rest, total) ← scoreSlots ledger validation rest
    return (slot :: rest, score + total)

/-- The sum over all slots, together with the schedule that has its slots validated. -/
def score (schedule : Schedule) (ledger : Ledger) (validation : Validation) :
    Except Inconsistency (Schedule × Score) := do
  let (slots, total) ← scoreSlots ledger validation schedule.slots
  return ({ schedule with slots }, total)

/-- The first element that occurs again later on, in the order of the later occurrences. -/
def firstRepeated : List DiscussionId → List DiscussionId → Option DiscussionId
  | _, [] => none
  | seen, discussion :: rest =>
    if seen.contains discussion then some discussion
    else firstRepeated (discussion :: seen) rest

def checkUnique (schedule : Schedule) : Except Inconsistency Unit :=
  match firstRepeated [] schedule.listings with
  | some discussion => .error (.duplicatePlacement discussion)
  | none => .ok ()

/-- The discussions of a slot, `none` where the schedule has no such slot. -/
def discussionsAt (schedule : Schedule) (index : Nat) : Option (List DiscussionId) :=
  (schedule.slot? index).map (·.discussions)

/-- Locked slots must list what they list in `template`. -/
def checkLocked (schedule template : Schedule) : Except Inconsistency Unit :=
  match schedule.locked.toList.find? fun index =>
      schedule.discussionsAt index ≠ template.discussionsAt index with
  | some index => .error (.lockedSlotChanged index)
  | none => .ok ()

end Schedule

end Unconference
