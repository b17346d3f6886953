import Unconference.Proofs.Register.Scores
import Unconference.Proofs.Schedule.Scoring
import Unconference.Proofs.Slot.Deltas

/-!
# Scores are conserved

Whoever does not attend a discussion misses it, so what is achieved and what is missed are together
what the known discussions can achieve at best, however outdated the attendance.  A user counts for
every listing of a discussion, with at most 100 points each time.  A ledger of so few users and a
slot or schedule of so few listings that this many points fit into a register are therefore scored
in registers without overflow, and what an assignment adds or a removal costs is at most what one
listing can achieve.
-/

namespace Unconference

namespace Ledger

variable {ledger : Ledger}

/-- Whoever is unknown achieves nothing, so the list may be taken as it is. -/
theorem Coherent.total_known_maxScore
    (hledger : ledger.Coherent) (discussions : List DiscussionId) :
    total ((ledger.known discussions).map ledger.maxScore) =
      total (discussions.map fun discussion =>
        total ((ledger.interested discussion).map (·.2))) := by
  unfold known
  rw [total_map_filter]
  congr 1
  apply List.map_congr_left
  intro discussion _
  rw [← hledger.maxScore_eq_total]
  unfold maxScore
  cases ledger.discussion? discussion <;> rfl

theorem total_userIds_le
    (ledger : Ledger) {amount : UserId → Nat} (hle : ∀ user, amount user ≤ 100) :
    total (ledger.userIds.map amount) ≤ 100 * ledger.users.length := by
  have hsum : total (ledger.userIds.map amount) ≤ 100 * ledger.userIds.length :=
    total_map_le_mul fun user _ => hle user
  simpa [userIds] using hsum

theorem Coherent.maxScore_le (hledger : ledger.Coherent) (discussion : DiscussionId) :
    ledger.maxScore discussion ≤ 100 * ledger.users.length := by
  rw [hledger.maxScore_eq_total, hledger.total_interested discussion (·.2) fun _ => rfl]
  exact ledger.total_userIds_le fun user => ledger.interest_le user discussion

theorem Coherent.total_known_maxScore_le
    (hledger : ledger.Coherent) (discussions : List DiscussionId) :
    total ((ledger.known discussions).map ledger.maxScore) ≤
      100 * ledger.users.length * (ledger.known discussions).length :=
  total_map_le_mul fun discussion _ => hledger.maxScore_le discussion

end Ledger

namespace Slot

variable {slot : Slot} {ledger : Ledger} {discussion : DiscussionId}

/-- Nobody gains more than the points that they give. -/
theorem gain_le (hledger : ledger.Coherent) (slot : Slot) (discussion : DiscussionId) :
    slot.gain ledger discussion ≤ 100 * ledger.users.length := by
  refine le_trans ?_ (hledger.maxScore_le discussion)
  unfold gain
  split
  · exact Nat.zero_le _
  · rw [total_switchers, hledger.maxScore_eq_total]
    exact total_map_le_total_map fun _ _ => Nat.sub_le _ _

/-- Strangers to the ledger may attend too, but they have no points to lose. -/
theorem loss_le (slot : Slot) (ledger : Ledger) (discussion : DiscussionId) :
    slot.loss ledger discussion ≤ 100 * ledger.users.length := by
  by_cases hmem : discussion ∈ slot.discussions
  · rw [loss_eq_total_userIds ledger hmem]
    apply ledger.total_userIds_le
    intro user
    have hinterest := ledger.interest_le user discussion
    split <;> omega
  · rw [loss_of_not_mem ledger hmem]
    exact Nat.zero_le _

theorem score_add_missed_discussionScore_le
    (hledger : ledger.Coherent) (slot : Slot) (discussion : DiscussionId) :
    (slot.discussionScore ledger discussion).score +
        (slot.discussionScore ledger discussion).missed ≤ 100 * ledger.users.length := by
  rw [score_add_missed_discussionScore, ← hledger.maxScore_eq_total]
  exact hledger.maxScore_le discussion

theorem score_add_missed_of_score_eq_ok
    {validation : Validation} {after : Slot} {score : Score}
    (hscore : slot.score ledger validation = .ok (after, score)) :
    score.score + score.missed =
      total (slot.discussions.map fun discussion =>
        total ((ledger.interested discussion).map (·.2))) := by
  obtain ⟨hvalidated, rfl⟩ := score_eq_ok_iff.1 hscore
  rw [score_add_missed_totalScore, discussions_of_validated_eq_ok hvalidated]

end Slot

theorem Schedule.score_add_missed_of_scoreSlots_eq_ok
    {ledger : Ledger} {validation : Validation} {slots after : List Slot} {score : Score}
    (hscore : scoreSlots ledger validation slots = .ok (after, score)) :
    score.score + score.missed =
      total ((slots.flatMap (·.discussions)).map fun discussion =>
        total ((ledger.interested discussion).map (·.2))) := by
  induction slots generalizing after score with
  | nil =>
      obtain ⟨_, rfl⟩ := Prod.mk.inj (Except.ok.inj hscore)
      rfl
  | cons slot rest ih =>
      obtain ⟨_, _, _, _, hfirst, hothers, _, rfl⟩ := scoreSlots_cons_eq_ok_iff.1 hscore
      have hslot := Slot.score_add_missed_of_score_eq_ok hfirst
      have hrest := ih hothers
      rw [List.flatMap_cons, List.map_append, total_append, ← hslot, ← hrest, Score.score_add,
        Score.missed_add]
      omega

theorem Schedule.score_add_missed_of_score_eq_ok
    {schedule after : Schedule} {ledger : Ledger} {validation : Validation} {score : Score}
    (hscore : schedule.score ledger validation = .ok (after, score)) :
    score.score + score.missed =
      total (schedule.listings.map fun discussion =>
        total ((ledger.interested discussion).map (·.2))) := by
  obtain ⟨slots, hslots, _⟩ := score_eq_ok_iff.1 hscore
  exact score_add_missed_of_scoreSlots_eq_ok hslots

/-! ## Scores fit into registers -/

/-- Whatever is added up or subtracted for the slot has a value, and it is the right one. -/
structure Slot.FitsRegisters (slot : Slot) (ledger : Ledger) : Prop where
  maxScore : ∀ discussion record, ledger.discussion? discussion = some record →
    record.maxScoreInRegister.value? = some record.maxScore
  gain : ∀ discussion,
    (slot.gainInRegister ledger discussion).value? = some (slot.gain ledger discussion)
  assign : ∀ discussion,
    (slot.assignInRegister ledger discussion).1 = (slot.assign ledger discussion).1 ∧
      (slot.assignInRegister ledger discussion).2.value? =
        some (slot.assign ledger discussion).2
  loss : ∀ discussion,
    (slot.lossInRegister ledger discussion).value? = some (slot.loss ledger discussion)
  remove : ∀ discussion,
    (slot.removeInRegister ledger discussion).1 = (slot.remove ledger discussion).1 ∧
      (slot.removeInRegister ledger discussion).2.value? =
        some (slot.remove ledger discussion).2
  discussionScore : ∀ discussion,
    (slot.discussionScoreInRegisters ledger discussion).value? =
      some (slot.discussionScore ledger discussion)
  -- also where validation refuses a score, nothing overflowed on the way
  score : ∀ validation, ∃ counted,
    (slot.scoreInRegisters ledger validation).2.value? = some counted ∧
      ((slot.scoreInRegisters ledger validation).1.map fun after => (after, counted)) =
        slot.score ledger validation

structure Schedule.FitsRegisters (schedule : Schedule) (ledger : Ledger) : Prop where
  slots : ∀ slot ∈ schedule.slots, slot.FitsRegisters ledger
  score : ∀ validation, ∃ counted,
    (schedule.scoreInRegisters ledger validation).2.value? = some counted ∧
      ((schedule.scoreInRegisters ledger validation).1.map fun after => (after, counted)) =
        schedule.score ledger validation

/-- All points that the users can give to that many listings fit into a register. -/
def Ledger.FewListings (ledger : Ledger) (discussions : List DiscussionId) : Prop :=
  100 * ledger.users.length * max 1 (ledger.known discussions).length < UInt32.size

namespace Ledger.FewListings

variable {ledger : Ledger} {discussions : List DiscussionId}

theorem lt_size (hfew : ledger.FewListings discussions) {number : Nat}
    (hle : number ≤ 100 * ledger.users.length) : number < UInt32.size :=
  calc
    number ≤ 100 * ledger.users.length := hle
    _ ≤ 100 * ledger.users.length * max 1 (ledger.known discussions).length :=
      Nat.le_mul_of_pos_right _ (by omega)
    _ < UInt32.size := hfew

theorem of_sublist (hfew : ledger.FewListings discussions) {fewer : List DiscussionId}
    (hsublist : fewer.Sublist discussions) : ledger.FewListings fewer := by
  have hlength : (ledger.known fewer).length ≤ (ledger.known discussions).length :=
    (hsublist.filter _).length_le
  refine lt_of_le_of_lt (Nat.mul_le_mul_left _ ?_) hfew
  omega

theorem value?_ofScore
    (hfew : ledger.FewListings discussions) (hledger : ledger.Coherent) {score : Score}
    (hle : score.score + score.missed ≤
      total (discussions.map fun discussion =>
        total ((ledger.interested discussion).map (·.2)))) :
    (ScoreRegisters.ofScore score).value? = some score := by
  apply ScoreRegisters.value?_ofScore
  calc
    score.score + score.missed ≤ total ((ledger.known discussions).map ledger.maxScore) := by
      rwa [hledger.total_known_maxScore]
    _ ≤ 100 * ledger.users.length * (ledger.known discussions).length :=
      hledger.total_known_maxScore_le discussions
    _ ≤ 100 * ledger.users.length * max 1 (ledger.known discussions).length :=
      Nat.mul_le_mul_left _ (le_max_right _ _)
    _ < UInt32.size := hfew

end Ledger.FewListings

theorem Slot.fitsRegisters
    {slot : Slot} {ledger : Ledger} (hledger : ledger.Coherent)
    (hfew : ledger.FewListings slot.discussions) : slot.FitsRegisters ledger where
  maxScore discussion record hrecord := by
    have hle := hledger.maxScore_le discussion
    simp only [Ledger.maxScore, hrecord] at hle
    rw [Discussion.maxScoreInRegister_eq, Register.value?_ofNat (hfew.lt_size hle)]
  gain discussion := by
    rw [gainInRegister_eq, Register.value?_ofNat (hfew.lt_size (gain_le hledger slot discussion))]
  assign discussion := by
    have hle := gain_le hledger slot discussion
    rw [← assign_snd] at hle
    rw [assignInRegister_eq]
    exact ⟨rfl, Register.value?_ofNat (hfew.lt_size hle)⟩
  loss discussion := by
    rw [lossInRegister_eq, Register.value?_ofNat (hfew.lt_size (slot.loss_le ledger discussion))]
  remove discussion := by
    have hle := slot.loss_le ledger discussion
    rw [← remove_snd] at hle
    rw [removeInRegister_eq]
    exact ⟨rfl, Register.value?_ofNat (hfew.lt_size hle)⟩
  discussionScore discussion := by
    rw [discussionScoreInRegisters_eq]
    apply ScoreRegisters.value?_ofScore
    exact hfew.lt_size (score_add_missed_discussionScore_le hledger slot discussion)
  score validation := by
    obtain ⟨counted, hcounted, hscore, hle⟩ := slot.scoreInRegisters_spec ledger validation
    rw [hcounted]
    exact ⟨counted, hfew.value?_ofScore hledger hle, hscore⟩

theorem Schedule.fitsRegisters
    {schedule : Schedule} {ledger : Ledger} (hledger : ledger.Coherent)
    (hfew : ledger.FewListings schedule.listings) : schedule.FitsRegisters ledger where
  slots slot hmem := by
    have hsublist : slot.discussions.Sublist schedule.listings :=
      List.sublist_flatten_of_mem (List.mem_map_of_mem hmem)
    exact Slot.fitsRegisters hledger (hfew.of_sublist hsublist)
  score validation := by
    obtain ⟨counted, hcounted, hscore, hle⟩ := schedule.scoreInRegisters_spec ledger validation
    rw [hcounted]
    exact ⟨counted, hfew.value?_ofScore hledger hle, hscore⟩

/-- However outdated the attendance is, achieved and missed points are together the most that the
known discussions can achieve, once for every listing.  If 100 points of every user for every
listing fit into a register, nothing overflows that adds points up or subtracts them. -/
theorem Ledger.scores_are_conserved_in_registers {ledger : Ledger} (hledger : ledger.Reachable) :
    -- a slot, attended in any way at all
    (∀ slot : Slot,
      (∀ validation after score, slot.score ledger validation = .ok (after, score) →
        score.score + score.missed =
          total ((ledger.known slot.discussions).map ledger.maxScore)) ∧
      (100 * ledger.users.length * max 1 (ledger.known slot.discussions).length < UInt32.size →
        slot.FitsRegisters ledger)) ∧
    -- a schedule of such slots
    ∀ schedule : Schedule,
      (∀ validation after score, schedule.score ledger validation = .ok (after, score) →
        score.score + score.missed =
          total ((ledger.known schedule.listings).map ledger.maxScore)) ∧
      (100 * ledger.users.length * max 1 (ledger.known schedule.listings).length <
          UInt32.size →
        schedule.FitsRegisters ledger) := by
  have hcoherent := hledger.coherent
  refine ⟨fun slot => ⟨fun validation after score hscore => ?_, Slot.fitsRegisters hcoherent⟩,
    fun schedule => ⟨fun validation after score hscore => ?_, Schedule.fitsRegisters hcoherent⟩⟩
  · rw [hcoherent.total_known_maxScore]
    exact Slot.score_add_missed_of_score_eq_ok hscore
  · rw [hcoherent.total_known_maxScore]
    exact Schedule.score_add_missed_of_score_eq_ok hscore

/-- A slot that was filled when there was a third talk, and when the first was liked best. -/
def foreignSlot : Slot :=
  ((((∅ : Slot).assign (Slot.threeTalks 90 10 50) ⟨0⟩).1.assign (Slot.threeTalks 90 10 50)
    ⟨1⟩).1.assign (Slot.threeTalks 90 10 50) ⟨2⟩).1

/-- A slot with one talk, and after it one that is outdated. -/
def partlyOutdated : Schedule where
  slots := [((∅ : Slot).assign (Slot.twoTalks 10 90) ⟨1⟩).1, foreignSlot]

theorem Ledger.scores_are_conserved_in_registers_of_partlyOutdated :
    (Slot.twoTalks 10 90).Reachable ∧
      foreignSlot.attending ⟨0⟩ = some ⟨0⟩ ∧
      foreignSlot.discussions = [⟨0⟩, ⟨1⟩, ⟨2⟩] ∧
      (Slot.twoTalks 10 90).discussion? ⟨2⟩ = none ∧
      (foreignSlot.score (Slot.twoTalks 10 90) .production).map (·.2) = .ok ⟨90, 10⟩ ∧
      total (((Slot.twoTalks 10 90).known foreignSlot.discussions).map
        (Slot.twoTalks 10 90).maxScore) = 100 ∧
      foreignSlot.FitsRegisters (Slot.twoTalks 10 90) ∧
      (partlyOutdated.score (Slot.twoTalks 10 90) .production).map (·.2) = .ok ⟨180, 10⟩ ∧
      total (((Slot.twoTalks 10 90).known partlyOutdated.listings).map
        (Slot.twoTalks 10 90).maxScore) = 190 ∧
      (∃ cause, partlyOutdated.score (Slot.twoTalks 10 90) .strict = .error cause) ∧
      partlyOutdated.FitsRegisters (Slot.twoTalks 10 90) := by
  have hreach := Slot.twoTalks_reachable 10 90
  obtain ⟨hslots, hschedules⟩ := scores_are_conserved_in_registers hreach
  obtain ⟨hslot, hslotFits⟩ := hslots foreignSlot
  obtain ⟨hschedule, hscheduleFits⟩ := hschedules partlyOutdated
  have hscored : ∃ after, foreignSlot.score (Slot.twoTalks 10 90) .production =
      .ok (after, ⟨90, 10⟩) := ⟨_, rfl⟩
  have hsum : ∃ after, partlyOutdated.score (Slot.twoTalks 10 90) .production =
      .ok (after, ⟨180, 10⟩) := ⟨_, rfl⟩
  obtain ⟨after, hscored⟩ := hscored
  obtain ⟨afterAll, hsum⟩ := hsum
  refine ⟨hreach, by decide, by decide, by decide, by rw [hscored]; rfl,
    (hslot _ _ _ hscored).symm, hslotFits (by decide), by rw [hsum]; rfl,
    (hschedule _ _ _ hsum).symm, ⟨_, rfl⟩, hscheduleFits (by decide)⟩

end Unconference
