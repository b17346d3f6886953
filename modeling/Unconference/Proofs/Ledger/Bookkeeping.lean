import Unconference.Proofs.Ledger.Requests

/-!
# A ledger against the log of its requests

A ledger can be copied, and from then on each copy answers requests of its own.  Next to each copy
stands the log of the exchanges that led to it, those before the copy was made included.  The log
alone tells what the copy must hold: for every pair the value that was written last, and one record
for every identifier handed out.
-/

namespace Unconference

/-- The points that the record of a user shows for a discussion. -/
def User.pointsFor (user : User) (discussion : DiscussionId) : Nat :=
  ((user.interests.get? discussion).getD Interest.none).points

/-- The points that the record of a discussion shows for a user. -/
def Discussion.pointsFrom (discussion : Discussion) (user : UserId) : Nat :=
  ((discussion.interested.get? user).getD Interest.none).points

namespace Ledger

/-- A ledger with the exchanges that led to it, the oldest first. -/
structure Copy where
  log : List Exchange := []
  ledger : Ledger := ∅

namespace Copy

def asked (copy : Copy) (request : Request) : Copy where
  log := copy.log ++ [(request, (copy.ledger.answer request).1)]
  ledger := (copy.ledger.answer request).2

/-- The value written last for a pair, zero if there was none. -/
def lastWritten (copy : Copy) (user : UserId) (discussion : DiscussionId) : Int :=
  (copy.log.filterMap (written user discussion)).getLast?.getD 0

def usersAdded (copy : Copy) : List UserId := copy.log.filterMap userAdded

def discussionsAdded (copy : Copy) : List DiscussionId := copy.log.filterMap discussionAdded

end Copy

/-- The copies that are around after a new ledger was asked and copied, and so were its copies. -/
inductive Copies : List Copy → Prop
  | new : Copies [{}]
  | ask {before after : List Copy} {copy : Copy} (request : Request) :
      Copies (before ++ copy :: after) → Copies (before ++ copy.asked request :: after)
  | clone {copies : List Copy} {copy : Copy} :
      Copies copies → copy ∈ copies → Copies (copies ++ [copy])

/-! ## What the log tells -/

namespace Copy

structure Good (copy : Copy) : Prop where
  reachable : copy.ledger.Reachable
  users : copy.usersAdded = copy.ledger.userIds
  discussions : copy.discussionsAdded = copy.ledger.discussionIds
  interests : ∀ user discussion,
    (copy.ledger.interest user discussion : Int) = copy.lastWritten user discussion

variable {copy : Copy}

theorem lastWritten_asked
    (copy : Copy) (request : Request) (user : UserId) (discussion : DiscussionId) :
    (copy.asked request).lastWritten user discussion =
      (written user discussion (request, (copy.ledger.answer request).1)).getD
        (copy.lastWritten user discussion) := by
  simp only [lastWritten, asked, List.filterMap_append, List.getLast?_append]
  cases hwritten : written user discussion (request, (copy.ledger.answer request).1) <;>
    simp [hwritten]

theorem good_new : Good {} := by
  constructor
  · exact .empty
  · rfl
  · rfl
  · intro user discussion
    rfl

theorem Good.asked (hgood : copy.Good) (request : Request) : (copy.asked request).Good := by
  have hanswered := copy.ledger.answered request
  constructor
  · exact hgood.reachable.answer request
  · simp only [Copy.asked, usersAdded, List.filterMap_append, List.filterMap_cons,
      List.filterMap_nil, hanswered.userIds_eq, ← hgood.users]
    cases userAdded (request, (copy.ledger.answer request).1) <;> rfl
  · simp only [Copy.asked, discussionsAdded, List.filterMap_append, List.filterMap_cons,
      List.filterMap_nil, hanswered.discussionIds_eq, ← hgood.discussions]
    cases discussionAdded (request, (copy.ledger.answer request).1) <;> rfl
  · intro user discussion
    rw [lastWritten_asked, ← hgood.interests]
    exact hanswered.interest_eq user discussion

end Copy

theorem Copies.good {copies : List Copy} (hcopies : Copies copies) :
    ∀ copy ∈ copies, copy.Good := by
  induction hcopies with
  | new =>
      intro copy hmem
      rw [List.mem_singleton.1 hmem]
      exact Copy.good_new
  | @ask before after asked request _ ih =>
      -- the other copies do not notice
      intro copy hmem
      simp only [List.mem_append, List.mem_cons] at hmem ih
      rcases hmem with hbefore | rfl | hafter
      · exact ih copy (.inl hbefore)
      · exact (ih asked (.inr (.inl rfl))).asked request
      · exact ih copy (.inr (.inr hafter))
  | clone _ hcloned ih =>
      intro copy hmem
      rcases List.mem_append.1 hmem with hold | hnew
      · exact ih copy hold
      · rw [List.mem_singleton.1 hnew]
        exact ih _ hcloned

/-! ## Coherent records -/

theorem wish?_of_mem
    {ledger : Ledger} {user : UserId} {person : User} (hperson : ledger.user? user = some person)
    {discussion : DiscussionId} {interest : Interest}
    (hmem : (discussion, interest) ∈ person.interests.entries) :
    ledger.wish? user discussion = some interest := by
  rw [wish?, hperson, Option.bind_some]
  exact IdMap.get?_eq_some_iff.2 hmem

theorem demand?_of_mem
    {ledger : Ledger} {discussion : DiscussionId} {record : Discussion}
    (hrecord : ledger.discussion? discussion = some record)
    {user : UserId} {interest : Interest}
    (hmem : (user, interest) ∈ record.interested.entries) :
    ledger.demand? user discussion = some interest := by
  rw [demand?, hrecord, Option.bind_some]
  exact IdMap.get?_eq_some_iff.2 hmem

theorem user?_isSome_iff (ledger : Ledger) (user : UserId) :
    (ledger.user? user).isSome ↔ user ∈ ledger.userIds := by
  simp [mem_userIds, user?]

theorem discussion?_isSome_iff (ledger : Ledger) (discussion : DiscussionId) :
    (ledger.discussion? discussion).isSome ↔ discussion ∈ ledger.discussionIds := by
  simp [mem_discussionIds, discussion?]

theorem mem_discussionIds_of_isSlotPermitted
    {ledger : Ledger} {discussion : DiscussionId} {index : Nat}
    (hpermitted : ledger.isSlotPermitted discussion index = true) :
    discussion ∈ ledger.discussionIds := by
  rw [← discussion?_isSome_iff]
  unfold isSlotPermitted at hpermitted
  split at hpermitted
  · next hrecord => rw [hrecord]; rfl
  · cases hpermitted

namespace Coherent

variable {ledger : Ledger} {user : UserId} {discussion : DiscussionId}

theorem pointsFrom_eq
    (hgood : ledger.Coherent) {record : Discussion}
    (hrecord : ledger.discussion? discussion = some record) (user : UserId) :
    record.pointsFrom user = ledger.interest user discussion := by
  rw [interest_eq_wish?, hgood.mirrored, demand?, hrecord]
  rfl

theorem of_mem_interests
    (hgood : ledger.Coherent) {person : User} (hperson : ledger.user? user = some person)
    {interest : Interest} (hmem : (discussion, interest) ∈ person.interests.entries) :
    0 < interest.points ∧ discussion ∈ ledger.discussionIds := by
  have hwish := wish?_of_mem hperson hmem
  have hpos := hgood.positive user discussion interest hwish
  have hwants : 0 < ledger.interest user discussion := by
    rw [interest_eq_wish?, hwish]
    exact hpos
  exact ⟨hpos, hgood.discussion_known hwants⟩

theorem of_mem_interested
    (hgood : ledger.Coherent) {record : Discussion}
    (hrecord : ledger.discussion? discussion = some record)
    {interest : Interest} (hmem : (user, interest) ∈ record.interested.entries) :
    0 < interest.points ∧ user ∈ ledger.userIds := by
  have hdemand := demand?_of_mem hrecord hmem
  rw [← hgood.mirrored] at hdemand
  have hpos := hgood.positive user discussion interest hdemand
  have hwants : 0 < ledger.interest user discussion := by
    rw [interest_eq_wish?, hdemand]
    exact hpos
  exact ⟨hpos, mem_userIds_of_interest_pos hwants⟩

/-- What a discussion remembers of its greatest score never goes stale. -/
theorem maxScore_eq
    (hgood : ledger.Coherent) {record : Discussion}
    (hrecord : ledger.discussion? discussion = some record) :
    record.maxScore = total (ledger.userIds.map (ledger.interest · discussion)) := by
  have hmax := hgood.maxScore_eq_total discussion
  rw [hgood.total_interested discussion (·.2) fun _ => rfl] at hmax
  simpa [maxScore, hrecord] using hmax

theorem unmatchedOfUser_eq_none (hgood : ledger.Coherent) (user : UserId) :
    ledger.unmatchedOfUser user = none := by
  unfold unmatchedOfUser
  cases hperson : ledger.user? user with
  | none => rfl
  | some person =>
      simp only [Option.bind_eq_bind, Option.bind_some]
      rw [List.find?_eq_none.2]
      · rfl
      · rintro ⟨discussion, interest⟩ hmem
        have hwish := wish?_of_mem hperson hmem
        rw [hgood.mirrored, demand?, Option.bind_eq_some_iff] at hwish
        obtain ⟨record, hrecord, hstored⟩ := hwish
        simp [hrecord, hstored]

theorem unmatchedOfDiscussion_eq_none (hgood : ledger.Coherent) (discussion : DiscussionId) :
    ledger.unmatchedOfDiscussion discussion = none := by
  simp only [unmatchedOfDiscussion, Option.bind_eq_bind]
  rw [List.find?_eq_none.2]
  · rfl
  · rintro ⟨user, points⟩ hmem
    simpa using ((hgood.mem_interested discussion user points).1 hmem).2

theorem checkSymmetry_eq (hgood : ledger.Coherent) : ledger.checkSymmetry = .ok () := by
  have husers : ledger.userIds.findSome? ledger.unmatchedOfUser = none :=
    List.findSome?_eq_none_iff.2 fun user _ => hgood.unmatchedOfUser_eq_none user
  have hdiscussions : ledger.discussionIds.findSome? ledger.unmatchedOfDiscussion = none :=
    List.findSome?_eq_none_iff.2 fun discussion _ =>
      hgood.unmatchedOfDiscussion_eq_none discussion
  simp [checkSymmetry, husers, hdiscussions]

end Coherent

/-! ## The books are faithful -/

/-- What a copy holds, told from the log. -/
structure Copy.Faithful (copy : Copy) : Prop where
  interests : ∀ user discussion,
    (copy.ledger.interest user discussion : Int) = copy.lastWritten user discussion
  userSide : ∀ user record, copy.ledger.user? user = some record →
    ∀ discussion, (record.pointsFor discussion : Int) = copy.lastWritten user discussion
  discussionSide : ∀ discussion record, copy.ledger.discussion? discussion = some record →
    ∀ user, (record.pointsFrom user : Int) = copy.lastWritten user discussion
  userEntries : ∀ user record, copy.ledger.user? user = some record →
    ∀ entry ∈ record.interests.entries,
      0 < entry.2.points ∧ (copy.ledger.discussion? entry.1).isSome
  discussionEntries : ∀ discussion record, copy.ledger.discussion? discussion = some record →
    ∀ entry ∈ record.interested.entries, 0 < entry.2.points ∧ (copy.ledger.user? entry.1).isSome
  userNumbers : copy.usersAdded = (List.range copy.usersAdded.length).map UserId.mk
  discussionNumbers :
    copy.discussionsAdded = (List.range copy.discussionsAdded.length).map DiscussionId.mk
  usersKnown : ∀ user, (copy.ledger.user? user).isSome ↔ user ∈ copy.usersAdded
  discussionsKnown : ∀ discussion,
    (copy.ledger.discussion? discussion).isSome ↔ discussion ∈ copy.discussionsAdded
  maxScores : ∀ discussion record, copy.ledger.discussion? discussion = some record →
    (copy.ledger.answer (.recallMaxScore discussion)).1 =
      .maxScore (some (total (copy.usersAdded.map (copy.ledger.interest · discussion))))
  symmetric : copy.ledger.checkSymmetry = .ok ()

/-- Only what a request or its reply names is changed, and nothing at all by a refusal. -/
structure Confined (ledger : Ledger) (request : Request) (reply : Reply) (after : Ledger) :
    Prop where
  users : ∀ user ∉ usersNamed (request, reply), after.user? user = ledger.user? user
  discussions : ∀ discussion ∉ discussionsNamed (request, reply),
    after.discussion? discussion = ledger.discussion? discussion
  wishes : ∀ user discussion, written user discussion (request, reply) = none →
    after.wish? user discussion = ledger.wish? user discussion
  demands : ∀ user discussion, written user discussion (request, reply) = none →
    after.demand? user discussion = ledger.demand? user discussion
  refusals : ∀ refusal, reply = .refused refusal → after = ledger

theorem Copy.Good.faithful {copy : Copy} (hgood : copy.Good) : copy.Faithful := by
  have hcoherent := hgood.reachable.coherent
  constructor
  · exact hgood.interests
  · intro user record hrecord discussion
    rw [← hgood.interests, interest, hrecord]
    rfl
  · intro discussion record hrecord user
    rw [← hgood.interests, hcoherent.pointsFrom_eq hrecord]
  · intro user record hrecord entry hmem
    rw [discussion?_isSome_iff]
    exact hcoherent.of_mem_interests hrecord hmem
  · intro discussion record hrecord entry hmem
    rw [user?_isSome_iff]
    exact hcoherent.of_mem_interested hrecord hmem
  · simp [hgood.users, userIds]
  · simp [hgood.discussions, discussionIds]
  · rw [hgood.users]
    exact copy.ledger.user?_isSome_iff
  · rw [hgood.discussions]
    exact copy.ledger.discussion?_isSome_iff
  · intro discussion record hrecord
    simp [answer, recallMaxScore, hrecord, hcoherent.maxScore_eq hrecord, hgood.users]
  · exact hcoherent.checkSymmetry_eq

theorem Reachable.confined {ledger : Ledger} (hreach : ledger.Reachable) (request : Request) :
    ledger.Confined request (ledger.answer request).1 (ledger.answer request).2 := by
  have hanswered := ledger.answered request
  constructor
  · exact fun user hunnamed => hanswered.user?_eq hunnamed
  · exact fun discussion hunnamed => hanswered.discussion?_eq hunnamed
  · exact fun user discussion hunwritten => hanswered.wish?_eq hunwritten
  · intro user discussion hunwritten
    rw [← (hreach.answer request).coherent.mirrored, hanswered.wish?_eq hunwritten,
      hreach.coherent.mirrored]
  · intro refusal hrefused
    rw [hrefused] at hanswered
    exact hanswered.eq_of_refused

/-- Whatever was asked of a ledger and its copies, every copy is a faithful record of its log with
two sides, and answers a request without touching what that does not name. -/
theorem copies_are_faithful_two_sided_records
    {copies : List Copy} (hcopies : Copies copies) {copy : Copy} (hmem : copy ∈ copies) :
    copy.Faithful ∧
      (∀ request, copy.ledger.Confined request (copy.ledger.answer request).1
        (copy.ledger.answer request).2) ∧
      ∀ user discussion value,
        (copy.ledger.answer (.setInterest user discussion value)).1 =
          if ¬ (0 ≤ value ∧ value ≤ 100) then .refused (.invalidInterest value)
          else if copy.ledger.user? user = none then .refused (.userNotFound user)
          else if copy.ledger.discussion? discussion = none then
            .refused (.discussionNotFound discussion)
          else .done := by
  have hgood := hcopies.good copy hmem
  exact ⟨hgood.faithful, hgood.reachable.confined, copy.ledger.reply_setInterest⟩

theorem Copies.askAll
    {before after : List Copy} {copy : Copy} (hcopies : Copies (before ++ copy :: after))
    (requests : List Request) :
    Copies (before ++ requests.foldl Copy.asked copy :: after) := by
  induction requests generalizing copy with
  | nil => exact hcopies
  | cons request rest ih => exact ih (hcopies.ask request)

/-- Two users about one talk, with its greatest score recalled in between and two mistakes. -/
def disputedTalk : Copy :=
  [.addUser "ann", .addUser "ben", .addDiscussion ⟨0⟩ "talk" true 2,
    .setInterest ⟨0⟩ ⟨0⟩ 30, .recallMaxScore ⟨0⟩, .setInterest ⟨1⟩ ⟨0⟩ 50,
    .setInterest ⟨1⟩ ⟨0⟩ 101, .setInterest ⟨2⟩ ⟨0⟩ 10].foldl Copy.asked {}

/-- In the copy one user loses interest. -/
def abandonedTalk : Copy :=
  [.recallMaxScore ⟨0⟩, .setInterest ⟨0⟩ ⟨0⟩ 0].foldl Copy.asked disputedTalk

theorem copies_are_faithful_about_abandonedTalk :
    Copies [disputedTalk, abandonedTalk] ∧ abandonedTalk ∈ [disputedTalk, abandonedTalk] ∧
      abandonedTalk.Faithful ∧
      disputedTalk.lastWritten ⟨0⟩ ⟨0⟩ = 30 ∧ disputedTalk.ledger.maxScore ⟨0⟩ = 80 ∧
      abandonedTalk.lastWritten ⟨0⟩ ⟨0⟩ = 0 ∧ abandonedTalk.ledger.maxScore ⟨0⟩ = 50 := by
  have hnew : Copies ([] ++ ({} : Copy) :: []) := .new
  have hdisputed : Copies [disputedTalk] := hnew.askAll _
  have hcloned : Copies ([disputedTalk] ++ [disputedTalk]) :=
    hdisputed.clone (List.mem_singleton_self _)
  have hcopies : Copies [disputedTalk, abandonedTalk] := hcloned.askAll _
  have hmem : abandonedTalk ∈ [disputedTalk, abandonedTalk] := by simp
  exact ⟨hcopies, hmem, (copies_are_faithful_two_sided_records hcopies hmem).1,
    by decide, by decide, by decide, by decide⟩

end Ledger

end Unconference
