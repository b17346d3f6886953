import Unconference.Configuration
import Unconference.Document.Schedule
import Unconference.Scheduler

/-!
# Reports, states and configurations as documents
-/

namespace Unconference

open Document

def Phase.document : Phase → Document
  | idleClean => text "IdleClean"
  | idleStale => text "IdleStale"
  | running => text "Running"
  | runningPendingChanges => text "RunningPendingChanges"

def RunState.document (state : RunState) : Document :=
  Document.record [
    ("phase", state.phase.document),
    ("is_running", truth state.isRunning),
    ("is_stale", truth state.isStale),
    ("flags", record [
      ("changes_since_last_schedule", truth state.changedSinceSchedule),
      ("changes_since_scheduler_snapshot", truth state.changedSinceSnapshot),
      ("scheduler_running", truth state.isRunning)])]

def RunReport.document (report : RunReport) : Document :=
  Document.record [
    ("strategy", report.strategy.document),
    ("heuristic_score", optional number report.heuristicScore),
    ("random_score", optional number report.randomScore),
    ("candidates", number report.candidates),
    ("score", report.score.document),
    ("stale", truth report.isStale),
    ("persist_error", optional text report.persistError)]

def PlannedSlot.document (slot : PlannedSlot) : Document :=
  Document.record [("time", text slot.time), ("is_break", truth slot.isBreak)]

def PlannedDay.document (day : PlannedDay) : Document :=
  Document.record [("name", text day.name), ("slots", listOf PlannedSlot.document day.slots)]

def Configuration.document (configuration : Configuration) : Document :=
  Document.record [
    ("search", configuration.search.document),
    ("timetable", Document.record [
      ("days", listOf PlannedDay.document configuration.calendar.days)]),
    ("locations", listOf Location.document configuration.locations),
    ("persist_path", optional text configuration.persistPath)]

end Unconference
