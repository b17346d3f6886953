import Unconference.Document
import Unconference.Search.Options

/-!
# Schedules, snapshots and outcomes as documents
-/

namespace Unconference

open Document

def UserId.document (user : UserId) : Document := .number user.number

def DiscussionId.document (discussion : DiscussionId) : Document := .number discussion.number

def SlotSet.document (set : SlotSet) : Document := listOf number set.toList

def Score.document (score : Score) : Document :=
  record [("score", number score.score), ("missed", number score.missed)]

def Slot.document (slot : Slot) : Document :=
  record [
    ("discussions", listOf DiscussionId.document slot.discussions),
    ("attendance", listOf (fun (user, discussion) => pair user.document discussion.document)
      slot.attendance.entries)]

def Schedule.document (schedule : Schedule) : Document :=
  record [
    ("slots", listOf Slot.document schedule.slots),
    ("locked", schedule.locked.document)]

def Validation.document : Validation → Document
  | production => text "Production"
  | strict => text "Strict"

def Algorithm.document : Algorithm → Document
  | combined => text "Combined"
  | heuristic => text "Heuristic"
  | random => text "Random"
  | climb => text "Climb"

def Strategy.document : Strategy → Document
  | heuristic => text "Heuristic"
  | random => text "Random"
  | climb => text "Climb"

def Snapshot.document (snapshot : Snapshot) : Document :=
  record [
    ("worklist", listOf DiscussionId.document snapshot.worklist),
    ("slot_count", number snapshot.slotCount),
    ("locked", snapshot.locked.document),
    ("validation", snapshot.validation.document),
    ("prior", optional Schedule.document snapshot.prior)]

def SearchOptions.document (options : SearchOptions) : Document :=
  record [
    ("algorithm", options.algorithm.document),
    ("validation", options.validation.document),
    ("duration_ms", number options.duration),
    ("seed", optional number options.seed),
    ("mutation_max", number options.mutationMax)]

def SearchOutcome.document (outcome : SearchOutcome) : Document :=
  record [
    ("schedule", outcome.schedule.document),
    ("score", outcome.score.document),
    ("strategy", outcome.strategy.document),
    ("heuristic_score", optional number outcome.heuristicScore),
    ("random_score", optional number outcome.randomScore),
    ("candidates", number outcome.candidates)]

end Unconference
