import Unconference.Proofs.Ledger.Worth

/-!
# Requests to a ledger

Whatever happens to a ledger is a sequence of requests, each of which gets one reply.  A request
that is refused changes nothing.  One that is granted writes at most one interest, adds at most one
record, and leaves alone what neither it nor its reply names.
-/

namespace Unconference

theorem Interest.ofInt_cases (value : Int) :
    (∃ interest, Interest.ofInt value = .ok interest ∧ (interest.points : Int) = value) ∨
      ¬ (0 ≤ value ∧ value ≤ 100) ∧ Interest.ofInt value = .error (.invalidInterest value) := by
  by_cases hscale : 0 ≤ value ∧ value ≤ 100
  · have hpoints : ((value.toNat : Nat) : Int) = value := Int.toNat_of_nonneg hscale.1
    exact .inl ⟨⟨value.toNat, by omega⟩, dif_pos hscale, hpoints⟩
  · exact .inr ⟨hscale, dif_neg hscale⟩

namespace Ledger

inductive Request where
  | addUser (name : String)
  | addDiscussion (owner : UserId) (title : String) (isPublic : Bool) (slotCount : Nat)
  | setInterest (user : UserId) (discussion : DiscussionId) (value : Int)
  | setPublic (discussion : DiscussionId) (isPublic : Bool)
  | setPossibleSlots (discussion : DiscussionId) (possibleSlots : SlotSet)
  | recallMaxScore (discussion : DiscussionId)
deriving DecidableEq

inductive Reply where
  | user (user : UserId)
  | discussion (discussion : DiscussionId)
  | done
  | maxScore (score : Option Nat)
  | refused (refusal : Refusal)
deriving DecidableEq

def Reply.ofResult {α : Type} (granted : α → Reply) : Except Refusal α → Reply
  | .ok result => granted result
  | .error refusal => .refused refusal

def answer (ledger : Ledger) : Request → Reply × Ledger
  | .addUser name => (ledger.addUser name).map .user id
  | .addDiscussion owner title isPublic slotCount =>
    (ledger.addDiscussion owner title isPublic slotCount).map (.ofResult .discussion) id
  | .setInterest user discussion value =>
    (ledger.setInterest user discussion value).map (.ofResult fun _ => .done) id
  | .setPublic discussion isPublic =>
    (ledger.setPublic discussion isPublic).map (.ofResult fun _ => .done) id
  | .setPossibleSlots discussion possibleSlots =>
    (ledger.setPossibleSlots discussion possibleSlots).map (.ofResult fun _ => .done) id
  | .recallMaxScore discussion => (ledger.recallMaxScore discussion).map .maxScore id

theorem Reachable.answer {ledger : Ledger} (hreach : ledger.Reachable) (request : Request) :
    (ledger.answer request).2.Reachable := by
  cases request with
  | addUser name => exact hreach.addUser name
  | addDiscussion owner title isPublic slotCount =>
      exact hreach.addDiscussion owner title isPublic slotCount
  | setInterest user discussion value => exact hreach.setInterest user discussion value
  | setPublic discussion isPublic => exact hreach.setPublic discussion isPublic
  | setPossibleSlots discussion possibleSlots =>
      exact hreach.setPossibleSlots discussion possibleSlots
  | recallMaxScore discussion => exact hreach.recallMaxScore discussion

/-! ## What a request and its reply name -/

abbrev Exchange := Request × Reply

def usersNamed : Exchange → List UserId
  | (.setInterest user _ _, _) => [user]
  | (_, .user user) => [user]
  | _ => []

def discussionsNamed : Exchange → List DiscussionId
  | (.setInterest _ discussion _, _) => [discussion]
  | (.setPublic discussion _, _) => [discussion]
  | (.setPossibleSlots discussion _, _) => [discussion]
  | (.recallMaxScore discussion, _) => [discussion]
  | (_, .discussion discussion) => [discussion]
  | _ => []

/-- The value that an exchange wrote down for a pair. -/
def written (user : UserId) (discussion : DiscussionId) : Exchange → Option Int
  | (.setInterest other about value, .done) =>
    if other = user ∧ about = discussion then some value else none
  | _ => none

def userAdded : Exchange → Option UserId
  | (.addUser _, .user user) => some user
  | _ => none

def discussionAdded : Exchange → Option DiscussionId
  | (.addDiscussion .., .discussion discussion) => some discussion
  | _ => none

/-! ## Granted or refused -/

/-- What an answer comes to: the ledger as it was, or with one record added or changed. -/
inductive Answered (ledger : Ledger) : Request → Reply → Ledger → Prop
  | refused (request : Request) (refusal : Refusal) :
      Answered ledger request (.refused refusal) ledger
  | addUser (name : String) :
      Answered ledger (.addUser name) (.user ⟨ledger.users.length⟩) (ledger.addUser name).2
  | addDiscussion {owner : UserId} {title : String} {isPublic : Bool} {slotCount : Nat}
      {after : Ledger} :
      after.users = ledger.users →
      after.discussions = ledger.discussions ++
        [{ owner, title, isPublic, possibleSlots := SlotSet.full slotCount }] →
      Answered ledger (.addDiscussion owner title isPublic slotCount)
        (.discussion ⟨ledger.discussions.length⟩) after
  | setInterest {user : UserId} {discussion : DiscussionId} {person : User}
      {record : Discussion} (interest : Interest) :
      ledger.user? user = some person → ledger.discussion? discussion = some record →
      Answered ledger (.setInterest user discussion interest.points) .done
        ((ledger.modifyUser user (·.withInterest discussion interest)).modifyDiscussion discussion
          (·.withInterest user interest))
  | setPublic (discussion : DiscussionId) (isPublic : Bool) :
      Answered ledger (.setPublic discussion isPublic) .done
        (ledger.modifyDiscussion discussion ({ · with isPublic }))
  | setPossibleSlots (discussion : DiscussionId) (possibleSlots : SlotSet) :
      Answered ledger (.setPossibleSlots discussion possibleSlots) .done
        (ledger.modifyDiscussion discussion ({ · with possibleSlots }))
  | recallMaxScore (discussion : DiscussionId) (score : Option Nat) :
      Answered ledger (.recallMaxScore discussion) (.maxScore score)
        (ledger.modifyDiscussion discussion (·.remembering))

theorem answered (ledger : Ledger) (request : Request) :
    ledger.Answered request (ledger.answer request).1 (ledger.answer request).2 := by
  cases request with
  | addUser name => exact .addUser name
  | addDiscussion owner title isPublic slotCount =>
      simp only [answer, Ledger.addDiscussion]
      cases ledger.user? owner with
      | none => exact .refused _ _
      | some record => exact .addDiscussion rfl rfl
  | setInterest user discussion value =>
      simp only [answer, Ledger.setInterest]
      rcases Interest.ofInt_cases value with ⟨interest, hinterest, rfl⟩ | ⟨_, hinvalid⟩
      · rw [hinterest]
        cases huser : ledger.user? user with
        | none => exact .refused _ _
        | some person =>
            cases hrecord : ledger.discussion? discussion with
            | none => exact .refused _ _
            | some record => exact .setInterest interest huser hrecord
      · rw [hinvalid]
        exact .refused _ _
  | setPublic discussion isPublic =>
      simp only [answer, Ledger.setPublic, updateDiscussion]
      cases ledger.discussion? discussion with
      | none => exact .refused _ _
      | some record => exact .setPublic discussion isPublic
  | setPossibleSlots discussion possibleSlots =>
      simp only [answer, Ledger.setPossibleSlots, updateDiscussion]
      cases ledger.discussion? discussion with
      | none => exact .refused _ _
      | some record => exact .setPossibleSlots discussion possibleSlots
  | recallMaxScore discussion => exact .recallMaxScore discussion _

/-- The value is checked before the user and the user before the discussion. -/
theorem reply_setInterest
    (ledger : Ledger) (user : UserId) (discussion : DiscussionId) (value : Int) :
    (ledger.answer (.setInterest user discussion value)).1 =
      if ¬ (0 ≤ value ∧ value ≤ 100) then .refused (.invalidInterest value)
      else if ledger.user? user = none then .refused (.userNotFound user)
      else if ledger.discussion? discussion = none then .refused (.discussionNotFound discussion)
      else .done := by
  simp only [answer, Ledger.setInterest]
  by_cases hscale : 0 ≤ value ∧ value ≤ 100
  · rw [if_neg (not_not_intro hscale), Interest.ofInt, dif_pos hscale]
    cases ledger.user? user with
    | none => rfl
    | some person =>
        cases ledger.discussion? discussion with
        | none => rfl
        | some record => rfl
  · rw [if_pos hscale, Interest.ofInt, dif_neg hscale]
    rfl

theorem points_getD_noted (interest : Interest) :
    ((noted interest).getD Interest.none).points = interest.points := by
  unfold noted
  by_cases hnone : interest.isNone = true
  · have hzero : interest.points = 0 := by simpa [Interest.isNone] using hnone
    simp [hnone, hzero, Interest.none]
  · simp [hnone]

namespace Answered

variable {ledger after : Ledger} {request : Request} {reply : Reply}

theorem eq_of_refused {refusal : Refusal}
    (hanswered : ledger.Answered request (.refused refusal) after) : after = ledger := by
  cases hanswered
  rfl

/-! ## What stays as it was -/

theorem user?_eq
    (hanswered : ledger.Answered request reply after) {user : UserId}
    (hunnamed : user ∉ usersNamed (request, reply)) :
    after.user? user = ledger.user? user := by
  cases hanswered with
  | refused refusal => rfl
  | addUser name =>
      have hnew : user.number ≠ ledger.users.length := by
        rintro hnumber
        apply hunnamed
        simp [usersNamed, ← hnumber]
      rw [user?_addUser, if_neg hnew]
  | addDiscussion husers hdiscussions => exact congrArg (·[user.number]?) husers
  | setInterest interest huser hrecord =>
      rw [user?_modifyDiscussion, user?_modifyUser,
        if_neg fun heq => hunnamed (List.mem_singleton.2 heq.symm)]
  | setPublic | setPossibleSlots | recallMaxScore => rfl

theorem discussion?_eq
    (hanswered : ledger.Answered request reply after) {discussion : DiscussionId}
    (hunnamed : discussion ∉ discussionsNamed (request, reply)) :
    after.discussion? discussion = ledger.discussion? discussion := by
  cases hanswered with
  | refused refusal => rfl
  | addUser name => rfl
  | addDiscussion husers hdiscussions =>
      have hnew : discussion.number ≠ ledger.discussions.length := by
        rintro hnumber
        apply hunnamed
        simp [discussionsNamed, ← hnumber]
      unfold discussion?
      rw [hdiscussions]
      rcases Nat.lt_or_gt_of_ne hnew with hknown | hpast
      · rw [List.getElem?_append_left hknown]
      · rw [List.getElem?_eq_none (by rw [List.length_append]; exact hpast),
          List.getElem?_eq_none hpast.le]
  | setInterest interest huser hrecord =>
      rw [discussion?_modifyDiscussion,
        if_neg fun heq => hunnamed (List.mem_singleton.2 heq.symm), discussion?_modifyUser]
  | setPublic | setPossibleSlots | recallMaxScore =>
      rw [discussion?_modifyDiscussion,
        if_neg fun heq => hunnamed (List.mem_singleton.2 heq.symm)]

/-! ## What is written down -/

/-- A pair has either the value that the request wrote for it or the entry it had before. -/
theorem wish?_cases
    (hanswered : ledger.Answered request reply after) (user : UserId)
    (discussion : DiscussionId) :
    written user discussion (request, reply) = none ∧
        after.wish? user discussion = ledger.wish? user discussion ∨
      ∃ interest : Interest,
        written user discussion (request, reply) = some (interest.points : Int) ∧
          after.wish? user discussion = noted interest := by
  cases hanswered with
  | refused refusal => exact .inl ⟨by cases request <;> rfl, rfl⟩
  | addUser name => exact .inl ⟨rfl, ledger.wish?_addUser name user discussion⟩
  | addDiscussion husers hdiscussions =>
      refine .inl ⟨rfl, ?_⟩
      unfold wish? user?
      rw [husers]
  | @setInterest other about person record interest huser hrecord =>
      simp only [written]
      rw [wish?_modifyDiscussion, wish?_withInterest huser about interest user discussion]
      by_cases hpair : other = user ∧ about = discussion
      · rw [if_pos hpair, if_pos hpair]
        exact .inr ⟨interest, rfl, rfl⟩
      · rw [if_neg hpair, if_neg hpair]
        exact .inl ⟨rfl, rfl⟩
  | setPublic | setPossibleSlots | recallMaxScore => exact .inl ⟨rfl, rfl⟩

theorem wish?_eq
    (hanswered : ledger.Answered request reply after) {user : UserId}
    {discussion : DiscussionId} (hunwritten : written user discussion (request, reply) = none) :
    after.wish? user discussion = ledger.wish? user discussion := by
  rcases hanswered.wish?_cases user discussion with ⟨_, hsame⟩ | ⟨interest, hwritten, _⟩
  · exact hsame
  · rw [hwritten] at hunwritten
    cases hunwritten

theorem interest_eq
    (hanswered : ledger.Answered request reply after) (user : UserId)
    (discussion : DiscussionId) :
    (after.interest user discussion : Int) =
      (written user discussion (request, reply)).getD (ledger.interest user discussion) := by
  rw [interest_eq_wish?, interest_eq_wish?]
  rcases hanswered.wish?_cases user discussion with
    ⟨hunwritten, hsame⟩ | ⟨interest, hwritten, hwish⟩
  · rw [hunwritten, hsame, Option.getD_none]
  · rw [hwritten, hwish, points_getD_noted, Option.getD_some]

/-! ## What is added -/

theorem userIds_eq (hanswered : ledger.Answered request reply after) :
    after.userIds = ledger.userIds ++ (userAdded (request, reply)).toList := by
  cases hanswered with
  | refused refusal => cases request <;> exact (List.append_nil _).symm
  | addUser name => simp [Ledger.addUser, userIds, userAdded, List.range_succ]
  | addDiscussion husers hdiscussions => simp [userIds, userAdded, husers]
  | setInterest | setPublic | setPossibleSlots | recallMaxScore =>
      simp [userIds, userAdded, modifyUser, modifyDiscussion]

theorem discussionIds_eq (hanswered : ledger.Answered request reply after) :
    after.discussionIds =
      ledger.discussionIds ++ (discussionAdded (request, reply)).toList := by
  cases hanswered with
  | refused refusal => cases request <;> exact (List.append_nil _).symm
  | addUser name => exact (List.append_nil _).symm
  | addDiscussion husers hdiscussions =>
      simp [discussionIds, discussionAdded, hdiscussions, List.range_succ]
  | setInterest | setPublic | setPossibleSlots | recallMaxScore =>
      simp [discussionIds, discussionAdded, modifyUser, modifyDiscussion]

end Answered

end Ledger

end Unconference
