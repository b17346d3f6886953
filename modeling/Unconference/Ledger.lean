import Unconference.IdMap
import Unconference.Interest
import Unconference.SlotSet

/-!
# The ledger

The ledger records the users, the discussions and how much each user wants each discussion.  An
interest is written down on both sides, with the user and with the discussion, because a slot is
filled from the side of the discussion and attendance is compared from the side of the user; an
interest of no points is written on neither.

Users and discussions are never removed, so an identifier is the position of its record and the
next identifier is the number of records.  Each discussion remembers the sum of the interest in
it once somebody has asked; a changed interest makes it forget.

Every operation that changes the ledger answers together with the ledger after it.
-/

namespace Unconference

structure User where
  name : String
  interests : IdMap DiscussionId Interest := ∅
deriving DecidableEq

structure Discussion where
  owner : UserId
  title : String
  isPublic : Bool
  possibleSlots : SlotSet
  interested : IdMap UserId Interest := ∅
  rememberedMax : Option Nat := none
deriving DecidableEq

namespace Discussion

/-- What the discussion scores when everybody interested in it attends it. -/
def interestSum (discussion : Discussion) : Nat :=
  total (discussion.interested.values.map Interest.points)

/-- The sum of the interest in the discussion, taken from memory where it is remembered. -/
def maxScore (discussion : Discussion) : Nat :=
  discussion.rememberedMax.getD discussion.interestSum

/-- The discussion after somebody asked for its greatest score. -/
def remembering (discussion : Discussion) : Discussion :=
  { discussion with rememberedMax := some discussion.maxScore }

/-- The discussion with one interest in it changed and its greatest score forgotten. -/
def withInterest (discussion : Discussion) (user : UserId) (interest : Interest) : Discussion :=
  { discussion with
    interested :=
      if interest.isNone then discussion.interested.erase user
      else discussion.interested.insert user interest
    rememberedMax := none }

end Discussion

def User.withInterest (user : User) (discussion : DiscussionId) (interest : Interest) : User :=
  { user with
    interests :=
      if interest.isNone then user.interests.erase discussion
      else user.interests.insert discussion interest }

structure Ledger where
  users : List User := []
  discussions : List Discussion := []
deriving DecidableEq

namespace Ledger

instance : EmptyCollection Ledger := ⟨{}⟩

instance : Inhabited Ledger := ⟨∅⟩

def user? (ledger : Ledger) (user : UserId) : Option User := ledger.users[user.number]?

def discussion? (ledger : Ledger) (discussion : DiscussionId) : Option Discussion :=
  ledger.discussions[discussion.number]?

def userIds (ledger : Ledger) : List UserId := (List.range ledger.users.length).map UserId.mk

def discussionIds (ledger : Ledger) : List DiscussionId :=
  (List.range ledger.discussions.length).map DiscussionId.mk

/-- The points `user` gives to `discussion`, as written down with the user. -/
def interest (ledger : Ledger) (user : UserId) (discussion : DiscussionId) : Nat :=
  match ledger.user? user with
  | some record => ((record.interests.get? discussion).getD Interest.none).points
  | none => 0

/-- Who is interested in `discussion` and how much, as written down with the discussion. -/
def interested (ledger : Ledger) (discussion : DiscussionId) : List (UserId × Nat) :=
  match ledger.discussion? discussion with
  | some record => record.interested.entries.map fun (user, interest) => (user, interest.points)
  | none => []

def isSlotPermitted (ledger : Ledger) (discussion : DiscussionId) (index : Nat) : Bool :=
  match ledger.discussion? discussion with
  | some record => record.possibleSlots.contains index
  | none => false

def isPublic (ledger : Ledger) (discussion : DiscussionId) : Bool :=
  match ledger.discussion? discussion with
  | some record => record.isPublic
  | none => false

/-- The most `discussion` can score, zero when nobody knows it. -/
def maxScore (ledger : Ledger) (discussion : DiscussionId) : Nat :=
  match ledger.discussion? discussion with
  | some record => record.maxScore
  | none => 0

def addUser (ledger : Ledger) (name : String) : UserId × Ledger :=
  (⟨ledger.users.length⟩, { ledger with users := ledger.users ++ [{ name }] })

/-- Adds a discussion that may be placed in any of the first `slotCount` slots. -/
def addDiscussion (ledger : Ledger) (owner : UserId) (title : String) (isPublic : Bool)
    (slotCount : Nat) : Except Refusal DiscussionId × Ledger :=
  match ledger.user? owner with
  | none => (.error (.userNotFound owner), ledger)
  | some _ =>
    let discussion := { owner, title, isPublic, possibleSlots := SlotSet.full slotCount }
    (.ok ⟨ledger.discussions.length⟩,
      { ledger with discussions := ledger.discussions ++ [discussion] })

def modifyUser (ledger : Ledger) (user : UserId) (change : User → User) : Ledger :=
  { ledger with users := ledger.users.modify user.number change }

def modifyDiscussion (ledger : Ledger) (discussion : DiscussionId)
    (change : Discussion → Discussion) : Ledger :=
  { ledger with discussions := ledger.discussions.modify discussion.number change }

/-- Writes an interest down on both sides.  The value is checked first, then the user, then the
discussion. -/
def setInterest (ledger : Ledger) (user : UserId) (discussion : DiscussionId) (value : Int) :
    Except Refusal Unit × Ledger :=
  match Interest.ofInt value with
  | .error refusal => (.error refusal, ledger)
  | .ok interest =>
    match ledger.user? user, ledger.discussion? discussion with
    | none, _ => (.error (.userNotFound user), ledger)
    | some _, none => (.error (.discussionNotFound discussion), ledger)
    | some _, some _ =>
      (.ok (),
        (ledger.modifyUser user (·.withInterest discussion interest)).modifyDiscussion discussion
          (·.withInterest user interest))

/-- Changes the record of a discussion, which has to exist. -/
def updateDiscussion (ledger : Ledger) (discussion : DiscussionId)
    (change : Discussion → Discussion) : Except Refusal Unit × Ledger :=
  match ledger.discussion? discussion with
  | none => (.error (.discussionNotFound discussion), ledger)
  | some _ => (.ok (), ledger.modifyDiscussion discussion change)

def setPublic (ledger : Ledger) (discussion : DiscussionId) (isPublic : Bool) :
    Except Refusal Unit × Ledger :=
  ledger.updateDiscussion discussion ({ · with isPublic })

def setPossibleSlots (ledger : Ledger) (discussion : DiscussionId) (possibleSlots : SlotSet) :
    Except Refusal Unit × Ledger :=
  ledger.updateDiscussion discussion ({ · with possibleSlots })

/-- Asks for the most a discussion can score, which is remembered from then on. -/
def recallMaxScore (ledger : Ledger) (discussion : DiscussionId) : Option Nat × Ledger :=
  ((ledger.discussion? discussion).map (·.maxScore),
    ledger.modifyDiscussion discussion (·.remembering))

/-- The first interest of a user that the discussion does not have with the same points. -/
def unmatchedOfUser (ledger : Ledger) (user : UserId) : Option Inconsistency := do
  let record ← ledger.user? user
  let (discussion, _) ← record.interests.entries.find? fun (discussion, interest) =>
    (ledger.discussion? discussion).map (fun other =>
      (other.interested.get? user).getD Interest.none) ≠ some interest
  return .asymmetricLedger user discussion

/-- The first interest in a discussion that the user does not have with the same points. -/
def unmatchedOfDiscussion (ledger : Ledger) (discussion : DiscussionId) :
    Option Inconsistency := do
  let (user, _) ← (ledger.interested discussion).find? fun (user, points) =>
    ledger.interest user discussion ≠ points
  return .asymmetricLedger user discussion

/-- Both sides must tell the same interests; the users' side is compared first. -/
def checkSymmetry (ledger : Ledger) : Except Inconsistency Unit :=
  match ledger.userIds.findSome? ledger.unmatchedOfUser with
  | some cause => .error cause
  | none =>
    match ledger.discussionIds.findSome? ledger.unmatchedOfDiscussion with
    | some cause => .error cause
    | none => .ok ()

end Ledger

end Unconference
