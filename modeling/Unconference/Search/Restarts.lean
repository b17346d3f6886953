import Unconference.Random.Draw
import Unconference.Search.Options

/-!
# Random schedules

Every discussion of the work list is put into an open slot chosen at random.  The randomized
restart builds such schedules until its budget is used up, at least one, and keeps the best, of
equally good ones the first.
-/

namespace Unconference

variable {σ : Type} [RandomSource σ]

/-- Puts a discussion into an open slot chosen at random, which it names; one without an open slot
stays out. -/
def Schedule.assignRandomly (schedule : Schedule) (ledger : Ledger) (discussion : DiscussionId)
    (source : σ) : Option ((Option Nat × Schedule) × σ) := do
  let (chosen, source) ← drawElement (schedule.openSlots ledger discussion) source
  match chosen with
  | some index => return ((some index, schedule.assign ledger index discussion), source)
  | none => return ((none, schedule), source)

/-- Puts one discussion after the other into slots chosen at random. -/
def Schedule.assignAllRandomly (ledger : Ledger) :
    List DiscussionId → Schedule → σ → Option (Schedule × σ)
  | [], schedule, source => some (schedule, source)
  | discussion :: rest, schedule, source => do
    let ((_, schedule), source) ← schedule.assignRandomly ledger discussion source
    assignAllRandomly ledger rest schedule source

def Snapshot.randomSchedule (snapshot : Snapshot) (source : σ) : Option (Schedule × σ) :=
  Schedule.assignAllRandomly snapshot.ledger snapshot.worklist snapshot.template source

structure Candidate where
  schedule : Schedule
  score : Score
deriving DecidableEq

/-- What a loop under a budget ends with: the schedule it kept and how often it went round. -/
structure Kept where
  candidate : Candidate
  rounds : Nat
deriving DecidableEq

def Snapshot.randomCandidate (snapshot : Snapshot) (source : σ) :
    Except SearchFailure (Candidate × σ) := do
  let (schedule, source) ← drawn (snapshot.randomSchedule source)
  let (schedule, score) ← snapshot.scored schedule
  return ({ schedule, score }, source)

/-- Builds candidates as long as the clock, which was read last after `elapsed` milliseconds,
leaves time. -/
def Snapshot.restartsFrom (snapshot : Snapshot) (clock : Clock) (budget elapsed : Nat)
    (best : Candidate) (built : Nat) (source : σ) : Except SearchFailure (Kept × σ) :=
  if budget ≤ elapsed then .ok ({ candidate := best, rounds := built }, source)
  else do
    let (candidate, source) ← snapshot.randomCandidate source
    let best := if best.score.score < candidate.score.score then candidate else best
    snapshot.restartsFrom clock budget (elapsed + clock.tick) best (built + 1) source
termination_by budget - elapsed
decreasing_by
  have := clock.tick_pos
  omega

/-- The best of the random schedules built within a budget of milliseconds. -/
def Snapshot.restarts (snapshot : Snapshot) (clock : Clock) (budget : Nat) (source : σ) :
    Except SearchFailure (Kept × σ) := do
  let (first, source) ← snapshot.randomCandidate source
  snapshot.restartsFrom clock budget clock.tick first 1 source

end Unconference
