import Unconference.Identifier

/-!
# Why an operation is refused

A `Refusal` is something the caller can act on: a number out of range, an identifier nobody has,
a search that cannot start now.  An `Inconsistency` is a broken rule between the parts of the
program, found by one of its own checks; it ends the operation that found it and nothing else.
Both carry the facts, and `message` puts them into words.
-/

namespace Unconference

inductive Inconsistency where
  | asymmetricLedger (user : UserId) (discussion : DiscussionId)
  | slotCountMismatch (schedule timetable : Nat)
  | duplicatePlacement (discussion : DiscussionId)
  | lockedSlotChanged (index : Nat)
  | catchAllLocation
  | suboptimalAttendance (user : UserId) (attending preferred : DiscussionId)
deriving DecidableEq

inductive Refusal where
  | invalidInterest (value : Int)
  | userNotFound (user : UserId)
  | discussionNotFound (discussion : DiscussionId)
  | allSlotsLocked
  | searchInProgress
  | moderatedDiscussions (discussions : List DiscussionId)
  | noSchedule
  | inconsistent (cause : Inconsistency)
deriving DecidableEq

def Inconsistency.message : Inconsistency → String
  | asymmetricLedger user discussion =>
    "interest ledger is asymmetric for user " ++ user.text ++ " and discussion " ++ discussion.text
  | slotCountMismatch schedule timetable =>
    "schedule has " ++ toString schedule ++ " slots but the timetable has " ++
      toString timetable ++ " non-break slots"
  | duplicatePlacement discussion =>
    "discussion " ++ discussion.text ++ " is placed in more than one slot"
  | lockedSlotChanged index => "locked slot " ++ toString index ++ " changed during the search"
  | catchAllLocation => "the last location must be the only one that is not a place"
  | suboptimalAttendance user attending preferred =>
    "user " ++ user.text ++ " attends discussion " ++ attending.text ++
      " although they prefer discussion " ++ preferred.text ++ " in the same slot"

def moderatedText (discussions : List DiscussionId) : String :=
  "[" ++ ", ".intercalate (discussions.map fun d => "DiscussionId(" ++ toString d.number ++ ")") ++
    "]"

def Refusal.message : Refusal → String
  | invalidInterest value => "interest " ++ toString value ++ " is outside of 0..=100"
  | userNotFound user => "user " ++ user.text ++ " not found"
  | discussionNotFound discussion => "discussion " ++ discussion.text ++ " not found"
  | allSlotsLocked => "all slots are locked, nothing left to schedule"
  | searchInProgress => "a schedule search is already in progress"
  | moderatedDiscussions discussions =>
    "discussions awaiting moderation can't be scheduled: " ++ moderatedText discussions
  | noSchedule => "the search did not produce any schedule"
  | inconsistent cause => "internal error: " ++ cause.message

end Unconference
