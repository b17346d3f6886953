import Unconference.Snapshot

/-!
# Greedy schedules

The most wanted discussions come first, each into the open slot where it adds the most; of several
equally good slots it takes the first.  A discussion that adds nothing anywhere stays out.
-/

namespace Unconference

/-- The work list with the discussions of the greatest possible score in front; those with equal
scores keep their order. -/
def Snapshot.byDemand (snapshot : Snapshot) : List DiscussionId :=
  snapshot.worklist.mergeSort fun a b => snapshot.ledger.maxScore b ≤ snapshot.ledger.maxScore a

/-- What a discussion would add in a slot of a schedule. -/
def Schedule.gainAt (schedule : Schedule) (ledger : Ledger) (discussion : DiscussionId)
    (index : Nat) : Nat :=
  match schedule.slot? index with
  | some slot => slot.gain ledger discussion
  | none => 0

/-- The first of the slots in which a discussion adds the most, if it adds anything in any. -/
def Schedule.bestAmong (schedule : Schedule) (ledger : Ledger) (discussion : DiscussionId)
    (indices : List Nat) : Option (Nat × Nat) :=
  indices.foldl
    (fun best index =>
      let gained := schedule.gainAt ledger discussion index
      if (match best with | some (_, most) => most | none => 0) < gained then some (index, gained)
      else best)
    none

def Schedule.placeGreedily (ledger : Ledger) (schedule : Schedule) (discussion : DiscussionId) :
    Schedule :=
  match schedule.bestAmong ledger discussion (schedule.openSlots ledger discussion) with
  | some (index, _) => schedule.assign ledger index discussion
  | none => schedule

def Snapshot.greedy (snapshot : Snapshot) : Schedule :=
  snapshot.byDemand.foldl (Schedule.placeGreedily snapshot.ledger) snapshot.template

end Unconference
