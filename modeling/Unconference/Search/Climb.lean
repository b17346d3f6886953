import Unconference.Search.Restarts

/-!
# Hill climbing

A mutation takes some discussions, chosen at random, out of the slots that are not locked and puts
them into open slots chosen at random.  Hill climbing goes on from every mutation that does not
score less.
-/

namespace Unconference

variable {σ : Type} [RandomSource σ]

/-- The slots with discussions that may be moved, ascending. -/
def Schedule.occupiedSlots (schedule : Schedule) : List Nat :=
  (List.range schedule.size).filter fun index =>
    !schedule.isLocked index && (schedule.slot? index).any (!·.isEmpty)

/-- Takes out a discussion chosen at random from a slot chosen at random, and names it; `none` when
there is nothing left to take. -/
def Schedule.evictOne (schedule : Schedule) (ledger : Ledger) (source : σ) :
    Option (Option (DiscussionId × Schedule) × σ) := do
  let (chosen, source) ← drawElement schedule.occupiedSlots source
  match chosen with
  | none => return (none, source)
  | some index =>
    let (evicted, source) ← drawElement ((schedule.discussionsAt index).getD []) source
    match evicted with
    | none => return (none, source)
    | some discussion =>
      return (some (discussion, schedule.remove ledger index discussion), source)

/-- Takes out up to `count` discussions, which it names in the order taken. -/
def Schedule.evict (schedule : Schedule) (ledger : Ledger) (count : Nat) (source : σ) :
    Option ((List DiscussionId × Schedule) × σ) :=
  match count with
  | 0 => some (([], schedule), source)
  | count + 1 => do
    let (taken, source) ← schedule.evictOne ledger source
    match taken with
    | none => return (([], schedule), source)
    | some (discussion, schedule) =>
      let ((evicted, schedule), source) ← schedule.evict ledger count source
      return ((discussion :: evicted, schedule), source)

/-- Moves between one and `most` discussions, which it names in the order taken out. -/
def Schedule.mutate (schedule : Schedule) (ledger : Ledger) (most : Nat) (source : σ) :
    Option ((List DiscussionId × Schedule) × σ) := do
  let (count, source) ← drawCount (max most 1) source
  let ((evicted, schedule), source) ← schedule.evict ledger count source
  let (schedule, source) ← Schedule.assignAllRandomly ledger evicted schedule source
  return ((evicted, schedule), source)

def Snapshot.mutant (snapshot : Snapshot) (most : Nat) (schedule : Schedule) (source : σ) :
    Except SearchFailure (Candidate × σ) := do
  let ((_, schedule), source) ← drawn (schedule.mutate snapshot.ledger most source)
  let (schedule, score) ← snapshot.scored schedule
  return ({ schedule, score }, source)

/-- Climbs as long as the clock, which was read last after `elapsed` milliseconds, leaves time. -/
def Snapshot.climbFrom (snapshot : Snapshot) (clock : Clock) (budget elapsed most : Nat)
    (current : Candidate) (steps : Nat) (source : σ) : Except SearchFailure (Kept × σ) :=
  if budget ≤ elapsed then .ok ({ candidate := current, rounds := steps }, source)
  else do
    let (mutant, source) ← snapshot.mutant most current.schedule source
    let current := if current.score.score ≤ mutant.score.score then mutant else current
    snapshot.climbFrom clock budget (elapsed + clock.tick) most current (steps + 1) source
termination_by budget - elapsed
decreasing_by
  have := clock.tick_pos
  omega

/-- Improves a schedule within a budget of milliseconds, moving up to `most` discussions a step. -/
def Snapshot.climb (snapshot : Snapshot) (clock : Clock) (budget most : Nat) (start : Schedule)
    (source : σ) : Except SearchFailure (Kept × σ) := do
  let (schedule, score) ← snapshot.scored start
  snapshot.climbFrom clock budget clock.tick most { schedule, score } 0 source

end Unconference
