import Unconference.Search.Climb
import Unconference.Search.Greedy

/-!
# Running a search

The strategies that the options ask for are run on a snapshot and the best schedule is taken.  It
is checked once more before it is handed out: no discussion twice, and no locked slot changed.
-/

namespace Unconference

variable {σ : Type} [RandomSource σ]

def Snapshot.greedyCandidate (snapshot : Snapshot) : Except SearchFailure Candidate := do
  let (schedule, score) ← snapshot.scored snapshot.greedy
  return { schedule, score }

/-- The greedy schedule, if the algorithm asks for it. -/
def Snapshot.greedyRun (snapshot : Snapshot) (algorithm : Algorithm) :
    Except SearchFailure (Option Candidate) := do
  if algorithm.buildsGreedily then
    let greedy ← snapshot.greedyCandidate
    return some greedy
  else return none

/-- What the randomized restart keeps, if the algorithm asks for it. -/
def Snapshot.randomRun (snapshot : Snapshot) (options : SearchOptions) (clock : Clock)
    (source : σ) : Except SearchFailure (Option Kept × σ) := do
  if options.algorithm.restarts then
    let (random, source) ← snapshot.restarts clock options.duration source
    return (some random, source)
  else return (none, source)

/-- Takes the better one of what the two runs found, or climbs from the greedy schedule. -/
def Snapshot.settle (snapshot : Snapshot) (options : SearchOptions) (clock : Clock)
    (greedy : Option Candidate) (random : Option Kept) (source : σ) :
    Except SearchFailure SearchOutcome :=
  let report (best : Candidate) (strategy : Strategy) (candidates : Nat) : SearchOutcome := {
    schedule := best.schedule, score := best.score, strategy, candidates
    heuristicScore := greedy.map (·.score.score)
    randomScore := random.map (·.candidate.score.score) }
  let built := random.elim 0 (·.rounds)
  match greedy, random with
  | some greedy, some random =>
    if greedy.score.score < random.candidate.score.score then
      .ok (report random.candidate .random built)
    else .ok (report greedy .heuristic built)
  | some greedy, none =>
    if options.algorithm = .climb then do
      let (climbed, _) ←
        snapshot.climb clock options.duration options.mutationMax greedy.schedule source
      return report climbed.candidate .climb climbed.rounds
    else .ok (report greedy .heuristic built)
  | none, some random => .ok (report random.candidate .random built)
  | none, none => .error .noSchedule

/-- The outcome of the strategies, before the last check. -/
def Snapshot.explore (snapshot : Snapshot) (options : SearchOptions) (clock : Clock) (source : σ) :
    Except SearchFailure SearchOutcome := do
  let greedy ← snapshot.greedyRun options.algorithm
  let (random, source) ← snapshot.randomRun options clock source
  snapshot.settle options clock greedy random source

def Schedule.check (schedule template : Schedule) : Except Inconsistency Unit := do
  schedule.checkUnique
  schedule.checkLocked template

/-- Runs the strategies and checks the schedule they found. -/
def Snapshot.search (snapshot : Snapshot) (options : SearchOptions) (clock : Clock) (source : σ) :
    Except SearchFailure SearchOutcome := do
  let outcome ← snapshot.explore options clock source
  (outcome.schedule.check snapshot.template).mapError .inconsistent
  return outcome

end Unconference
