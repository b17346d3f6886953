import Unconference.Ledger
import Mathlib.Data.List.Sort

/-!
# The two sides of a ledger

A ledger that was built by its operations tells every interest twice, once with the user and once
with the discussion, and tells the same both times.  An interest without points is told on neither
side, and what a discussion remembers of its greatest score is the sum of the interest in it.

The two views below read one entry from either side.  Every operation changes both views alike,
which is all that the invariant needs.
-/

namespace Unconference

/-- A discussion that remembers a greatest score remembers the sum of the interest in it. -/
def Discussion.RemembersSum (discussion : Discussion) : Prop :=
  ∀ score, discussion.rememberedMax = some score → score = discussion.interestSum

theorem Discussion.RemembersSum.maxScore_eq
    {discussion : Discussion} (hsum : discussion.RemembersSum) :
    discussion.maxScore = discussion.interestSum := by
  unfold Discussion.maxScore
  cases hmemory : discussion.rememberedMax with
  | none => rfl
  | some score => exact hsum score hmemory

theorem Discussion.RemembersSum.remembering
    {discussion : Discussion} (hsum : discussion.RemembersSum) :
    discussion.remembering.RemembersSum := by
  intro score hscore
  have hmax : discussion.maxScore = score := by
    simpa [Discussion.remembering] using hscore
  rw [← hmax, hsum.maxScore_eq]
  rfl

namespace Ledger

/-- The ledgers that the operations lead to, successful or not. -/
inductive Reachable : Ledger → Prop
  | empty : Reachable ∅
  | addUser {ledger : Ledger} (name : String) :
      Reachable ledger → Reachable (ledger.addUser name).2
  | addDiscussion {ledger : Ledger} (owner : UserId) (title : String) (isPublic : Bool)
      (slotCount : Nat) :
      Reachable ledger → Reachable (ledger.addDiscussion owner title isPublic slotCount).2
  | setInterest {ledger : Ledger} (user : UserId) (discussion : DiscussionId) (value : Int) :
      Reachable ledger → Reachable (ledger.setInterest user discussion value).2
  | setPublic {ledger : Ledger} (discussion : DiscussionId) (isPublic : Bool) :
      Reachable ledger → Reachable (ledger.setPublic discussion isPublic).2
  | setPossibleSlots {ledger : Ledger} (discussion : DiscussionId) (possibleSlots : SlotSet) :
      Reachable ledger → Reachable (ledger.setPossibleSlots discussion possibleSlots).2
  | recallMaxScore {ledger : Ledger} (discussion : DiscussionId) :
      Reachable ledger → Reachable (ledger.recallMaxScore discussion).2

/-- The interest that is written down with the user. -/
def wish? (ledger : Ledger) (user : UserId) (discussion : DiscussionId) : Option Interest :=
  (ledger.user? user).bind fun record => record.interests.get? discussion

/-- The interest that is written down with the discussion. -/
def demand? (ledger : Ledger) (user : UserId) (discussion : DiscussionId) : Option Interest :=
  (ledger.discussion? discussion).bind fun record => record.interested.get? user

structure Coherent (ledger : Ledger) : Prop where
  mirrored : ∀ user discussion, ledger.wish? user discussion = ledger.demand? user discussion
  positive : ∀ user discussion interest,
    ledger.wish? user discussion = some interest → 0 < interest.points
  remembered : ∀ discussion record,
    ledger.discussion? discussion = some record → record.RemembersSum

/-! ## Looking up after an operation -/

@[simp] theorem user?_addUser (ledger : Ledger) (name : String) (user : UserId) :
    (ledger.addUser name).2.user? user =
      if user.number = ledger.users.length then some { name } else ledger.user? user := by
  unfold addUser user?
  rw [List.getElem?_append]
  split
  · rename_i hlt
    rw [if_neg (by omega)]
  · rename_i hge
    by_cases heq : user.number = ledger.users.length
    · simp [heq]
    · have hpast : ledger.users.length < user.number := by omega
      simp [heq, List.getElem?_eq_none hpast.le, Nat.sub_eq_zero_iff_le, hpast]

@[simp] theorem discussion?_addUser
    (ledger : Ledger) (name : String) (discussion : DiscussionId) :
    (ledger.addUser name).2.discussion? discussion = ledger.discussion? discussion := rfl

theorem user?_modifyUser
    (ledger : Ledger) (user other : UserId) (change : User → User) :
    (ledger.modifyUser user change).user? other =
      if user = other then (ledger.user? other).map change else ledger.user? other := by
  unfold modifyUser user?
  rw [List.getElem?_modify]
  by_cases heq : user = other
  · simp [heq]
  · have hnumber : user.number ≠ other.number := by
      intro h
      exact heq (Identifier.eq_of_number_eq h)
    simp [heq, hnumber]

theorem discussion?_modifyDiscussion
    (ledger : Ledger) (discussion other : DiscussionId) (change : Discussion → Discussion) :
    (ledger.modifyDiscussion discussion change).discussion? other =
      if discussion = other then (ledger.discussion? other).map change
      else ledger.discussion? other := by
  unfold modifyDiscussion discussion?
  rw [List.getElem?_modify]
  by_cases heq : discussion = other
  · simp [heq]
  · have hnumber : discussion.number ≠ other.number := by
      intro h
      exact heq (Identifier.eq_of_number_eq h)
    simp [heq, hnumber]

@[simp] theorem user?_modifyDiscussion
    (ledger : Ledger) (discussion : DiscussionId) (change : Discussion → Discussion)
    (user : UserId) :
    (ledger.modifyDiscussion discussion change).user? user = ledger.user? user := rfl

@[simp] theorem discussion?_modifyUser
    (ledger : Ledger) (user : UserId) (change : User → User) (discussion : DiscussionId) :
    (ledger.modifyUser user change).discussion? discussion = ledger.discussion? discussion := rfl

/-! ## The views after an operation -/

theorem wish?_addUser
    (ledger : Ledger) (name : String) (user : UserId) (discussion : DiscussionId) :
    (ledger.addUser name).2.wish? user discussion = ledger.wish? user discussion := by
  unfold wish?
  rw [user?_addUser]
  by_cases heq : user.number = ledger.users.length
  · have habsent : ledger.user? user = none := by
      unfold user?
      exact List.getElem?_eq_none heq.ge
    simp [heq, habsent]
  · rw [if_neg heq]

theorem wish?_modifyDiscussion
    (ledger : Ledger) (discussion : DiscussionId) (change : Discussion → Discussion)
    (user : UserId) (other : DiscussionId) :
    (ledger.modifyDiscussion discussion change).wish? user other = ledger.wish? user other := rfl

theorem demand?_modifyUser
    (ledger : Ledger) (changed : UserId) (change : User → User) (user : UserId)
    (discussion : DiscussionId) :
    (ledger.modifyUser changed change).demand? user discussion =
      ledger.demand? user discussion := rfl

theorem demand?_modifyDiscussion_of_interested_eq
    (ledger : Ledger) (discussion : DiscussionId) {change : Discussion → Discussion}
    (hchange : ∀ record, (change record).interested = record.interested)
    (user : UserId) (other : DiscussionId) :
    (ledger.modifyDiscussion discussion change).demand? user other =
      ledger.demand? user other := by
  unfold demand?
  rw [discussion?_modifyDiscussion]
  by_cases heq : discussion = other
  · subst other
    cases ledger.discussion? discussion <;> simp [hchange]
  · rw [if_neg heq]

/-- What a side of the ledger holds for a pair after `interest` was written down for it. -/
def noted (interest : Interest) : Option Interest :=
  if interest.isNone then none else some interest

theorem wish?_withInterest
    {ledger : Ledger} {user : UserId} {record : User} (hrecord : ledger.user? user = some record)
    (discussion : DiscussionId) (interest : Interest) (other : UserId)
    (about : DiscussionId) :
    (ledger.modifyUser user (·.withInterest discussion interest)).wish? other about =
      if user = other ∧ discussion = about then noted interest
      else ledger.wish? other about := by
  unfold wish?
  rw [user?_modifyUser]
  by_cases huser : user = other
  · subst other
    rw [if_pos rfl, hrecord]
    by_cases habout : discussion = about
    · subst about
      by_cases hnone : interest.isNone <;> simp [User.withInterest, noted, hnone]
    · by_cases hnone : interest.isNone <;>
        simp [User.withInterest, hnone, habout, IdMap.get?_erase_of_ne, IdMap.get?_insert_of_ne]
  · simp [huser]

theorem demand?_withInterest
    {ledger : Ledger} {discussion : DiscussionId} {record : Discussion}
    (hrecord : ledger.discussion? discussion = some record)
    (user : UserId) (interest : Interest) (other : UserId) (about : DiscussionId) :
    (ledger.modifyDiscussion discussion (·.withInterest user interest)).demand? other about =
      if user = other ∧ discussion = about then noted interest
      else ledger.demand? other about := by
  unfold demand?
  rw [discussion?_modifyDiscussion]
  by_cases habout : discussion = about
  · subst about
    rw [if_pos rfl, hrecord]
    by_cases huser : user = other
    · subst other
      by_cases hnone : interest.isNone <;> simp [Discussion.withInterest, noted, hnone]
    · by_cases hnone : interest.isNone <;>
        simp [Discussion.withInterest, hnone, huser, IdMap.get?_erase_of_ne,
          IdMap.get?_insert_of_ne]
  · simp [habout]

theorem discussion?_addDiscussion
    (ledger : Ledger) (owner : UserId) (title : String) (isPublic : Bool) (slotCount : Nat)
    {discussion : DiscussionId} {record : Discussion}
    (hrecord : (ledger.addDiscussion owner title isPublic slotCount).2.discussion? discussion =
      some record) :
    ledger.discussion? discussion = some record ∨
      ledger.discussion? discussion = none ∧
        record = { owner, title, isPublic, possibleSlots := SlotSet.full slotCount } := by
  unfold addDiscussion at hrecord
  cases howner : ledger.user? owner with
  | none =>
      simp only [howner] at hrecord
      exact .inl hrecord
  | some known =>
      simp only [howner, discussion?, List.getElem?_append] at hrecord
      unfold discussion?
      split at hrecord
      · exact .inl hrecord
      · rename_i hpast
        have hnew := List.mem_of_getElem? hrecord
        exact .inr ⟨List.getElem?_eq_none (by omega), by simpa using hnew⟩

theorem demand?_addDiscussion
    (ledger : Ledger) (owner : UserId) (title : String) (isPublic : Bool) (slotCount : Nat)
    (user : UserId) (discussion : DiscussionId) :
    (ledger.addDiscussion owner title isPublic slotCount).2.demand? user discussion =
      ledger.demand? user discussion := by
  unfold demand?
  cases hrecord :
      (ledger.addDiscussion owner title isPublic slotCount).2.discussion? discussion with
  | none =>
      have habsent : ledger.discussion? discussion = none := by
        unfold addDiscussion at hrecord
        cases howner : ledger.user? owner with
        | none => simpa [howner] using hrecord
        | some known =>
            simp only [howner, discussion?, List.getElem?_eq_none_iff,
              List.length_append, List.length_singleton] at hrecord
            exact List.getElem?_eq_none (by omega)
      rw [habsent]
  | some record =>
      rcases ledger.discussion?_addDiscussion owner title isPublic slotCount hrecord with
        hknown | ⟨hunknown, rfl⟩
      · rw [hknown]
      · rw [hunknown]
        rfl

theorem wish?_addDiscussion
    (ledger : Ledger) (owner : UserId) (title : String) (isPublic : Bool) (slotCount : Nat)
    (user : UserId) (discussion : DiscussionId) :
    (ledger.addDiscussion owner title isPublic slotCount).2.wish? user discussion =
      ledger.wish? user discussion := by
  unfold addDiscussion
  cases ledger.user? owner <;> rfl

/-! ## The invariant -/

theorem coherent_empty : Coherent ∅ := by
  constructor <;> simp [wish?, demand?, user?, discussion?, EmptyCollection.emptyCollection]

theorem Coherent.addUser
    {ledger : Ledger} (hgood : ledger.Coherent) (name : String) :
    (ledger.addUser name).2.Coherent := by
  constructor
  · intro user discussion
    rw [wish?_addUser]
    exact hgood.mirrored user discussion
  · intro user discussion interest hwish
    rw [wish?_addUser] at hwish
    exact hgood.positive user discussion interest hwish
  · exact hgood.remembered

theorem Coherent.addDiscussion
    {ledger : Ledger} (hgood : ledger.Coherent)
    (owner : UserId) (title : String) (isPublic : Bool) (slotCount : Nat) :
    (ledger.addDiscussion owner title isPublic slotCount).2.Coherent := by
  constructor
  · intro user discussion
    rw [wish?_addDiscussion, demand?_addDiscussion]
    exact hgood.mirrored user discussion
  · intro user discussion interest hwish
    rw [wish?_addDiscussion] at hwish
    exact hgood.positive user discussion interest hwish
  · intro discussion record hrecord
    rcases ledger.discussion?_addDiscussion owner title isPublic slotCount hrecord with
      hknown | ⟨_, rfl⟩
    · exact hgood.remembered discussion record hknown
    · intro score hscore
      simp at hscore

theorem remembered_modifyDiscussion
    {ledger : Ledger}
    (hremembered : ∀ discussion record,
      ledger.discussion? discussion = some record → record.RemembersSum)
    (discussion : DiscussionId) {change : Discussion → Discussion}
    (hchange : ∀ record : Discussion, record.RemembersSum → (change record).RemembersSum)
    (other : DiscussionId) (record : Discussion)
    (hrecord : (ledger.modifyDiscussion discussion change).discussion? other = some record) :
    record.RemembersSum := by
  rw [discussion?_modifyDiscussion] at hrecord
  split at hrecord
  · obtain ⟨before, hbefore, rfl⟩ := Option.map_eq_some_iff.1 hrecord
    exact hchange before (hremembered other before hbefore)
  · exact hremembered other record hrecord

theorem Coherent.modifyDiscussion
    {ledger : Ledger} (hgood : ledger.Coherent)
    (discussion : DiscussionId) {change : Discussion → Discussion}
    (hinterested : ∀ record, (change record).interested = record.interested)
    (hsum : ∀ record : Discussion, record.RemembersSum → (change record).RemembersSum) :
    (ledger.modifyDiscussion discussion change).Coherent := by
  constructor
  · intro user other
    rw [wish?_modifyDiscussion,
      ledger.demand?_modifyDiscussion_of_interested_eq discussion hinterested]
    exact hgood.mirrored user other
  · intro user other interest hwish
    exact hgood.positive user other interest hwish
  · exact remembered_modifyDiscussion hgood.remembered discussion hsum

theorem Coherent.updateDiscussion
    {ledger : Ledger} (hgood : ledger.Coherent)
    (discussion : DiscussionId) {change : Discussion → Discussion}
    (hinterested : ∀ record, (change record).interested = record.interested)
    (hsum : ∀ record : Discussion, record.RemembersSum → (change record).RemembersSum) :
    (ledger.updateDiscussion discussion change).2.Coherent := by
  unfold Ledger.updateDiscussion
  cases ledger.discussion? discussion with
  | none => exact hgood
  | some record => exact hgood.modifyDiscussion discussion hinterested hsum

theorem noted_positive {interest stored : Interest} (hnoted : noted interest = some stored) :
    0 < stored.points := by
  unfold noted at hnoted
  split at hnoted
  · simp at hnoted
  · rename_i hsome
    obtain rfl := Option.some.inj hnoted
    simpa [Interest.isNone, Nat.pos_iff_ne_zero] using hsome

theorem Coherent.setInterest
    {ledger : Ledger} (hgood : ledger.Coherent)
    (user : UserId) (discussion : DiscussionId) (value : Int) :
    (ledger.setInterest user discussion value).2.Coherent := by
  unfold Ledger.setInterest
  cases Interest.ofInt value with
  | error refusal => exact hgood
  | ok interest =>
      cases huser : ledger.user? user with
      | none => exact hgood
      | some person =>
          cases hdiscussion : ledger.discussion? discussion with
          | none => exact hgood
          | some record =>
              -- both views get the same new entry, whatever side is asked
              have hwish := fun other about =>
                wish?_withInterest huser discussion interest other about
              have hsame : (ledger.modifyUser user
                  (·.withInterest discussion interest)).discussion? discussion = some record :=
                hdiscussion
              have hdemand := fun other about =>
                demand?_withInterest hsame user interest other about
              constructor
              · intro other about
                simp only [wish?_modifyDiscussion, hwish, hdemand, demand?_modifyUser]
                rw [hgood.mirrored other about]
              · intro other about stored hstored
                simp only [wish?_modifyDiscussion, hwish] at hstored
                split at hstored
                · exact noted_positive hstored
                · exact hgood.positive other about stored hstored
              · refine remembered_modifyDiscussion hgood.remembered discussion ?_
                intro before _ score hscore
                simp [Discussion.withInterest] at hscore

theorem Reachable.coherent {ledger : Ledger} (hreach : ledger.Reachable) : ledger.Coherent := by
  induction hreach with
  | empty => exact coherent_empty
  | addUser name _ ih => exact ih.addUser name
  | addDiscussion owner title isPublic slotCount _ ih =>
      exact ih.addDiscussion owner title isPublic slotCount
  | setInterest user discussion value _ ih => exact ih.setInterest user discussion value
  | setPublic discussion isPublic _ ih =>
      exact ih.updateDiscussion discussion (fun _ => rfl) fun _ hsum => hsum
  | setPossibleSlots discussion possibleSlots _ ih =>
      exact ih.updateDiscussion discussion (fun _ => rfl) fun _ hsum => hsum
  | recallMaxScore discussion _ ih =>
      exact ih.modifyDiscussion discussion (fun _ => rfl) fun _ hsum => hsum.remembering

/-! ## One side read off the other -/

theorem interest_eq_wish? (ledger : Ledger) (user : UserId) (discussion : DiscussionId) :
    ledger.interest user discussion =
      ((ledger.wish? user discussion).getD Interest.none).points := by
  unfold interest wish?
  cases ledger.user? user <;> rfl

theorem mem_interested_iff
    (ledger : Ledger) (discussion : DiscussionId) (user : UserId) (points : Nat) :
    (user, points) ∈ ledger.interested discussion ↔
      ∃ interest, ledger.demand? user discussion = some interest ∧ interest.points = points := by
  unfold interested demand?
  cases ledger.discussion? discussion with
  | none => simp
  | some record => simp [IdMap.get?_eq_some_iff]

theorem interested_ascending (ledger : Ledger) (discussion : DiscussionId) :
    (ledger.interested discussion).Pairwise fun a b => a.1.number < b.1.number := by
  unfold interested
  cases ledger.discussion? discussion with
  | none => exact List.Pairwise.nil
  | some record => exact List.pairwise_map.2 record.interested.ascending

theorem mem_userIds (ledger : Ledger) (user : UserId) :
    user ∈ ledger.userIds ↔ user.number < ledger.users.length := by
  unfold userIds
  constructor
  · intro hmem
    obtain ⟨number, hnumber, rfl⟩ := List.mem_map.1 hmem
    exact List.mem_range.1 hnumber
  · intro hlt
    exact List.mem_map.2 ⟨user.number, List.mem_range.2 hlt, rfl⟩

theorem mem_discussionIds (ledger : Ledger) (discussion : DiscussionId) :
    discussion ∈ ledger.discussionIds ↔ discussion.number < ledger.discussions.length := by
  unfold discussionIds
  constructor
  · intro hmem
    obtain ⟨number, hnumber, rfl⟩ := List.mem_map.1 hmem
    exact List.mem_range.1 hnumber
  · intro hlt
    exact List.mem_map.2 ⟨discussion.number, List.mem_range.2 hlt, rfl⟩

theorem userIds_ascending (ledger : Ledger) :
    ledger.userIds.Pairwise fun a b => a.number < b.number :=
  List.pairwise_map.2 List.pairwise_lt_range

theorem discussionIds_ascending (ledger : Ledger) :
    ledger.discussionIds.Pairwise fun a b => a.number < b.number :=
  List.pairwise_map.2 List.pairwise_lt_range

theorem mem_userIds_of_interest_pos
    {ledger : Ledger} {user : UserId} {discussion : DiscussionId}
    (hpos : 0 < ledger.interest user discussion) : user ∈ ledger.userIds := by
  rw [mem_userIds]
  by_contra hpast
  have habsent : ledger.user? user = none := by
    unfold user?
    exact List.getElem?_eq_none (by omega)
  simp [interest, habsent] at hpos

/-- An entry on the side of the discussion is a positive interest on the side of the user. -/
theorem Coherent.mem_interested
    {ledger : Ledger} (hgood : ledger.Coherent)
    (discussion : DiscussionId) (user : UserId) (points : Nat) :
    (user, points) ∈ ledger.interested discussion ↔
      0 < ledger.interest user discussion ∧ ledger.interest user discussion = points := by
  rw [mem_interested_iff, interest_eq_wish?, ← hgood.mirrored]
  cases hwish : ledger.wish? user discussion with
  | none => simp [Interest.none]
  | some interest =>
      have hpos := hgood.positive user discussion interest hwish
      simp [hpos]

/-- Those interested in a discussion are the users with an interest in it, ascending. -/
theorem Coherent.interested_eq
    {ledger : Ledger} (hgood : ledger.Coherent) (discussion : DiscussionId) :
    ledger.interested discussion =
      (ledger.userIds.filter fun user => 0 < ledger.interest user discussion).map
        fun user => (user, ledger.interest user discussion) := by
  refine List.Pairwise.eq_of_mem_iff (r := fun a b : UserId × Nat => a.1.number < b.1.number)
    (ledger.interested_ascending discussion) ?_ ?_
  · exact List.pairwise_map.2 (ledger.userIds_ascending.filter _)
  · rintro ⟨user, points⟩
    rw [hgood.mem_interested]
    simp only [List.mem_map, List.mem_filter, decide_eq_true_eq, Prod.mk.injEq]
    constructor
    · rintro ⟨hpos, hpoints⟩
      exact ⟨user, ⟨mem_userIds_of_interest_pos hpos, hpos⟩, rfl, hpoints⟩
    · rintro ⟨other, ⟨_, hpos⟩, rfl, hpoints⟩
      exact ⟨hpos, hpoints⟩

theorem Coherent.discussion_known
    {ledger : Ledger} (hgood : ledger.Coherent) {user : UserId} {discussion : DiscussionId}
    (hpos : 0 < ledger.interest user discussion) :
    discussion ∈ ledger.discussionIds := by
  have hmem := (hgood.mem_interested discussion user _).2 ⟨hpos, rfl⟩
  rw [mem_discussionIds]
  by_contra hpast
  have habsent : ledger.discussion? discussion = none := by
    unfold discussion?
    exact List.getElem?_eq_none (by omega)
  simp [interested, habsent] at hmem

/-! ## What the ledger knows of a list -/

/-- The discussions on a list that the ledger knows, in the order of the list. -/
def known (ledger : Ledger) (discussions : List DiscussionId) : List DiscussionId :=
  discussions.filter fun discussion => (ledger.discussion? discussion).isSome

theorem Coherent.maxScore_eq_total
    {ledger : Ledger} (hgood : ledger.Coherent) (discussion : DiscussionId) :
    ledger.maxScore discussion = total ((ledger.interested discussion).map (·.2)) := by
  unfold maxScore interested
  cases hrecord : ledger.discussion? discussion with
  | none => rfl
  | some record =>
      have hsum := (hgood.remembered discussion record hrecord).maxScore_eq
      simp [hsum, Discussion.interestSum, IdMap.values, Function.comp_def]

end Ledger

end Unconference
