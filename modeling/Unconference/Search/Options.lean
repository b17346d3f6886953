import Unconference.Clock
import Unconference.Snapshot

/-!
# What a search is asked for and what it answers
-/

namespace Unconference

inductive Algorithm where
  /-- The greedy schedule or the best random one, whichever scores more. -/
  | combined
  | heuristic
  | random
  /-- The greedy schedule, improved by hill climbing. -/
  | climb
deriving DecidableEq

/-- Whether the greedy schedule is built, be it only to climb from. -/
def Algorithm.buildsGreedily : Algorithm → Bool
  | combined | heuristic | climb => true
  | random => false

/-- Whether the randomized restart is run. -/
def Algorithm.restarts : Algorithm → Bool
  | combined | random => true
  | heuristic | climb => false

structure SearchOptions where
  algorithm : Algorithm := .combined
  validation : Validation := .production
  /-- Budget of the randomized strategies in milliseconds. -/
  duration : Nat := 5000
  seed : Option Nat := none
  /-- The most discussions that one step of hill climbing moves. -/
  mutationMax : Nat := 4
deriving DecidableEq

inductive Strategy where
  | heuristic
  | random
  | climb
deriving DecidableEq

/-- Why a search has no schedule to show. -/
inductive SearchFailure where
  | inconsistent (cause : Inconsistency)
  /-- The random source never yielded a word that a draw could use. -/
  | drawsExhausted
  /-- No strategy was run. -/
  | noSchedule
deriving DecidableEq

structure SearchOutcome where
  schedule : Schedule
  score : Score
  strategy : Strategy
  heuristicScore : Option Nat
  randomScore : Option Nat
  /-- Schedules that the randomized strategies built. -/
  candidates : Nat
deriving DecidableEq

/-- A draw that may have failed, as a step of a search. -/
def drawn {α : Type} : Option α → Except SearchFailure α
  | some a => .ok a
  | none => .error .drawsExhausted

def Snapshot.scored (snapshot : Snapshot) (schedule : Schedule) :
    Except SearchFailure (Schedule × Score) :=
  (schedule.score snapshot.ledger snapshot.validation).mapError .inconsistent

end Unconference
