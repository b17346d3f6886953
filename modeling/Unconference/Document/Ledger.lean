import Unconference.Document.Schedule

/-!
# The ledger as a document
-/

namespace Unconference

open Document

def User.document (user : User) (id : UserId) : Document :=
  record [
    ("id", id.document),
    ("name", text user.name),
    ("interests", listOf (fun (discussion, interest) =>
      pair discussion.document (number interest.points)) user.interests.entries)]

def Discussion.document (discussion : Discussion) (id : DiscussionId) : Document :=
  record [
    ("id", id.document),
    ("owner", discussion.owner.document),
    ("title", text discussion.title),
    ("is_public", truth discussion.isPublic),
    ("interested", listOf (fun (user, interest) => pair user.document (number interest.points))
      discussion.interested.entries),
    ("possible_slots", discussion.possibleSlots.document),
    ("max_score", number discussion.maxScore)]

/-- The record of a user, nothing if there is none. -/
def Ledger.userDocument (ledger : Ledger) (user : UserId) : Document :=
  optional (·.document user) (ledger.user? user)

/-- The record of a discussion, nothing if there is none. -/
def Ledger.discussionDocument (ledger : Ledger) (discussion : DiscussionId) : Document :=
  optional (·.document discussion) (ledger.discussion? discussion)

def Ledger.document (ledger : Ledger) : Document :=
  record [
    ("users", listOf ledger.userDocument ledger.userIds),
    ("discussions", listOf ledger.discussionDocument ledger.discussionIds)]

end Unconference
