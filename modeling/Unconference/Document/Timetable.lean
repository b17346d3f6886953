import Unconference.Document
import Unconference.Timetable

/-!
# The timetable as a document
-/

namespace Unconference

open Document

def ShownDiscussion.document (shown : ShownDiscussion) : Document :=
  record [
    ("id", number shown.id.number),
    ("title", text shown.title),
    ("location", text shown.location),
    ("attendee_count", number shown.attendeeCount),
    ("score", number shown.score),
    ("attending", listOf text shown.attending),
    ("missing", listOf text shown.missing)]

def TimetableSlot.document (slot : TimetableSlot) : Document :=
  record [
    ("time", text slot.time),
    ("is_break", truth slot.isBreak),
    ("is_locked", truth slot.isLocked),
    ("discussions", listOf ShownDiscussion.document slot.discussions)]

def Day.document (day : Day) : Document :=
  record [
    ("name", text day.name),
    ("is_final", truth day.isFinal),
    ("slots", listOf TimetableSlot.document day.slots)]

def Location.document (location : Location) : Document :=
  record [
    ("name", text location.name),
    ("capacity", number location.capacity),
    ("is_place", truth location.isPlace)]

def Timetable.document (timetable : Timetable) : Document :=
  record [
    ("days", listOf Day.document timetable.days),
    ("locations", listOf Location.document timetable.locations)]

end Unconference
