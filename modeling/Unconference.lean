import Unconference.Document.Ledger
import Unconference.Document.Report
import Unconference.Json.Document
import Unconference.Main
import Unconference.Proofs.Conference.Searches
import Unconference.Proofs.Search.Approximation
import Unconference.Proofs.Slot.Objective
import Unconference.Proofs.Search.Seating
import Unconference.Proofs.Ledger.Bookkeeping
import Unconference.Proofs.Conference.Refusals
import Unconference.Proofs.Scheduler.Chronicle
import Unconference.Proofs.Scheduler.Staleness
import Unconference.Proofs.Conference.Alignment
import Unconference.Proofs.Search.Strictness
import Unconference.Proofs.Conference.Failures
import Unconference.Proofs.Conference.Display
import Unconference.Proofs.Scheduler.Agreement
import Unconference.Proofs.Scheduler.Guards
import Unconference.Proofs.Search.Leftovers
import Unconference.Proofs.Search.Report
import Unconference.Proofs.SlotSet.Canonical
import Unconference.Proofs.Scheduler.Storage
import Unconference.Proofs.Slot.Undoing
import Unconference.Proofs.Search.Mutation
import Unconference.Proofs.Search.Partition
import Unconference.Proofs.Register.Conservation
import Unconference.Proofs.Timetable.Rooms
