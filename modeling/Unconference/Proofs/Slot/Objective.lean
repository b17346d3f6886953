import Unconference.Proofs.Slot.Scoring

/-!
# Scoring computes the objective

A slot may have been filled, emptied, refreshed and scored for any ledgers, a different one each
time, before it is scored for the ledger at hand.  The score is the worth of its discussions all the
same, and the only users who are moved are those who would rather attend something else.
-/

namespace Unconference

namespace Slot

open Ledger

/-- Scoring in place, with the number of moves, what is left of the slot, and the answer.  Whether a
grievance is settled or refused is decided for each of them as the loop comes to it. -/
inductive Scoring (ledger : Ledger) :
    Validation → Slot → Nat → Slot → Except Inconsistency Score → Prop
  | done {validation : Validation} {slot : Slot} :
      slot.grievance ledger = none →
        Scoring ledger validation slot 0 slot (.ok (slot.totalScore ledger))
  | refuse {slot : Slot} {grievance : Grievance} :
      slot.grievance ledger = some grievance →
        Scoring ledger .strict slot 0 slot
          (.error (.suboptimalAttendance grievance.user
            ((slot.attending grievance.user).getD grievance.preferred) grievance.preferred))
  | move {slot final : Slot} {grievance : Grievance} {moves : Nat}
      {answer : Except Inconsistency Score} :
      slot.grievance ledger = some grievance →
        Scoring ledger .production (slot.seat grievance.user grievance.preferred) moves final
            answer →
          Scoring ledger .production slot (moves + 1) final answer

/-- The slot that scoring leaves.  A score that is refused leaves the slot as it was. -/
def afterScore (slot : Slot) (ledger : Ledger) (validation : Validation) : Slot :=
  match slot.score ledger validation with
  | .ok (scored, _) => scored
  | .error _ => slot

/-- The slots that the operations lead to, each made for some ledger that operations lead to. -/
inductive Reachable : Slot → Prop
  | empty : Reachable ∅
  | assign {slot : Slot} {ledger : Ledger} (discussion : DiscussionId) :
      ledger.Reachable → Reachable slot → Reachable (slot.assign ledger discussion).1
  | remove {slot : Slot} {ledger : Ledger} (discussion : DiscussionId) :
      ledger.Reachable → Reachable slot → Reachable (slot.remove ledger discussion).1
  | refresh {slot : Slot} {ledger : Ledger} :
      ledger.Reachable → Reachable slot → Reachable (slot.refreshed ledger)
  | score {slot : Slot} {ledger : Ledger} (validation : Validation) :
      ledger.Reachable → Reachable slot → Reachable (slot.afterScore ledger validation)

theorem afterScore_production (slot : Slot) (ledger : Ledger) :
    slot.afterScore ledger .production = slot.settled ledger := rfl

@[simp] theorem afterScore_strict (slot : Slot) (ledger : Ledger) :
    slot.afterScore ledger .strict = slot := by
  unfold afterScore
  cases hgrievance : slot.grievance ledger with
  | none => rw [score_strict_of_grievance_none hgrievance]
  | some grievance => rw [score_strict_of_grievance_some hgrievance]

theorem Settling.scoring
    {slot final : Slot} {ledger : Ledger} {moves : Nat}
    (hsettling : Settling ledger slot moves final) :
    Scoring ledger .production slot moves final (.ok (final.totalScore ledger)) := by
  induction hsettling with
  | done hnone => exact .done hnone
  | move hgrievance _ ih => exact .move hgrievance ih

/-- The loop in place ends after a move for each user at most, and scoring tells what it does. -/
theorem scoring_afterScore
    {ledger : Ledger} (hledger : ledger.Coherent) (slot : Slot) (validation : Validation) :
    ∃ moves ≤ ledger.users.length,
      Scoring ledger validation slot moves (slot.afterScore ledger validation)
        ((slot.score ledger validation).map (·.2)) := by
  cases validation with
  | production =>
      obtain ⟨moves, hmoves, hsettling⟩ := settling_settled hledger slot
      exact ⟨moves, hmoves, hsettling.scoring⟩
  | strict =>
      refine ⟨0, Nat.zero_le _, ?_⟩
      rw [afterScore_strict]
      cases hgrievance : slot.grievance ledger with
      | none =>
          rw [score_strict_of_grievance_none hgrievance]
          exact .done hgrievance
      | some grievance =>
          rw [score_strict_of_grievance_some hgrievance]
          exact .refuse hgrievance

theorem Reachable.wellFormed {slot : Slot} (hreach : slot.Reachable) : slot.WellFormed := by
  induction hreach with
  | empty => exact wellFormed_empty
  | assign discussion hledger _ ih => exact ih.assign hledger.coherent discussion
  | @remove _ ledger discussion _ _ ih => exact ih.remove ledger discussion
  | refresh hledger _ ih => exact ih.refreshed hledger.coherent
  | @score slot ledger validation hledger _ ih =>
      cases validation with
      | production =>
          rw [afterScore_production]
          exact ih.settled hledger.coherent
      | strict =>
          rw [afterScore_strict]
          exact ih

theorem score_settled_eq_worth
    {slot : Slot} (hslot : slot.WellFormed) {ledger : Ledger} (hledger : ledger.Coherent) :
    ((slot.settled ledger).totalScore ledger).score = ledger.worth slot.discussions := by
  have hsettled := hslot.settled hledger
  have hoptimal := hsettled.optimal_of_not_aggrieved (not_aggrieved_settled hledger slot)
  rw [hsettled.score_totalScore_eq hledger hoptimal, discussions_settled hledger]

/-- Somebody's entry changes exactly when somebody has a grievance. -/
theorem exists_attending_settled_ne_iff
    {slot : Slot} {ledger : Ledger} (hledger : ledger.Coherent) :
    (∃ user, (slot.settled ledger).attending user ≠ slot.attending user) ↔
      ∃ grievance, slot.grievance ledger = some grievance := by
  constructor
  · rintro ⟨user, hne⟩
    cases hgrievance : slot.grievance ledger with
    | none =>
        have hcontent := (grievance_eq_none_iff hledger).1 hgrievance user
        exact absurd (attending_settled_of_not_aggrieved hledger hcontent) hne
    | some grievance => exact ⟨grievance, rfl⟩
  · rintro ⟨grievance, hgrievance⟩
    obtain ⟨haggrieved, _⟩ := grievance_spec hledger hgrievance
    refine ⟨grievance.user, fun hsame => ?_⟩
    have hcontent := not_aggrieved_settled hledger slot grievance.user
    rw [aggrieved_iff, currentInterest_congr ledger hsame, discussions_settled hledger,
      ← aggrieved_iff] at hcontent
    exact hcontent haggrieved

theorem score_strict_error_iff
    {slot : Slot} {ledger : Ledger} (hledger : ledger.Coherent) :
    (∃ cause, slot.score ledger .strict = .error cause) ↔
      ∃ user, (slot.settled ledger).attending user ≠ slot.attending user := by
  rw [exists_attending_settled_ne_iff hledger]
  cases hgrievance : slot.grievance ledger with
  | none =>
      rw [score_strict_of_grievance_none hgrievance]
      simp
  | some grievance =>
      rw [score_strict_of_grievance_some hgrievance]
      simp

theorem score_strict_ok
    {slot after : Slot} {ledger : Ledger} (hledger : ledger.Coherent) {score : Score}
    (hscore : slot.score ledger .strict = .ok (after, score)) :
    after = slot ∧ slot.score ledger .production = .ok (slot, score) := by
  cases hgrievance : slot.grievance ledger with
  | none =>
      rw [score_strict_of_grievance_none hgrievance] at hscore
      obtain ⟨rfl, rfl⟩ := Prod.mk.inj (Except.ok.inj hscore)
      have hcontent := (grievance_eq_none_iff hledger).1 hgrievance
      have hsettled := (settled_eq_self_iff hledger).2 hcontent
      exact ⟨rfl, by rw [score_production, hsettled]⟩
  | some grievance =>
      rw [score_strict_of_grievance_some hgrievance] at hscore
      cases hscore

theorem score_strict_cause
    {slot : Slot} {ledger : Ledger} (hledger : ledger.Coherent) {cause : Inconsistency}
    (hscore : slot.score ledger .strict = .error cause) :
    ∃ user preferred,
      cause = .suboptimalAttendance user ((slot.attending user).getD preferred) preferred ∧
        slot.Aggrieved ledger user ∧
          FirstBest (ledger.interest user) slot.discussions preferred := by
  cases hgrievance : slot.grievance ledger with
  | none =>
      rw [score_strict_of_grievance_none hgrievance] at hscore
      cases hscore
  | some grievance =>
      rw [score_strict_of_grievance_some hgrievance] at hscore
      obtain ⟨haggrieved, hfirst⟩ := grievance_spec hledger hgrievance
      exact ⟨grievance.user, grievance.preferred, (Except.error.inj hscore).symm, haggrieved,
        hfirst⟩

/-- Whatever ledgers a slot was filled and scored for before, scoring it ends after a move for each
user at most with the worth of its discussions, and moves nobody but the aggrieved. -/
theorem score_computes_worth_of_any_slot
    {slot : Slot} (hslot : slot.Reachable) {ledger : Ledger} (hledger : ledger.Reachable) :
    -- the slot lists nothing twice, and whoever attends attends something listed
    (slot.discussions.Nodup ∧
      ∀ user discussion, slot.attending user = some discussion → discussion ∈ slot.discussions) ∧
    -- the loop in place ends under either validation
    (∀ validation, ∃ moves ≤ ledger.users.length,
      Scoring ledger validation slot moves (slot.afterScore ledger validation)
        ((slot.score ledger validation).map (·.2))) ∧
    -- the score is the sum over users of what they like best
    ((slot.settled ledger).discussions = slot.discussions ∧
      ∃ score,
        slot.score ledger .production = .ok (slot.settled ledger, score) ∧
          score.score = total (ledger.userIds.map fun user =>
            most (ledger.interest user) slot.discussions)) ∧
    (∀ user discussion,
      ledger.discussion? discussion = none → ledger.interest user discussion = 0) ∧
    -- nobody is aggrieved afterwards, and only the aggrieved were moved
    ((∀ user, ¬ (slot.settled ledger).Aggrieved ledger user) ∧
      (∀ user, ¬ slot.Aggrieved ledger user →
        (slot.settled ledger).attending user = slot.attending user) ∧
      ∀ user, slot.Aggrieved ledger user →
        ∃ discussion,
          (slot.settled ledger).attending user = some discussion ∧
            FirstBest (ledger.interest user) slot.discussions discussion) ∧
    -- strict scoring fails exactly when somebody would be moved, and moves nobody
    (((∃ cause, slot.score ledger .strict = .error cause) ↔
        ∃ user, (slot.settled ledger).attending user ≠ slot.attending user) ∧
      slot.afterScore ledger .strict = slot ∧
      (∀ after score, slot.score ledger .strict = .ok (after, score) →
        after = slot ∧ slot.score ledger .production = .ok (slot, score)) ∧
      ∀ cause, slot.score ledger .strict = .error cause →
        ∃ user preferred,
          cause = .suboptimalAttendance user ((slot.attending user).getD preferred) preferred ∧
            slot.Aggrieved ledger user ∧
              FirstBest (ledger.interest user) slot.discussions preferred) := by
  have hgood := hslot.wellFormed
  have hcoherent := hledger.coherent
  refine ⟨⟨hgood.nodup, hgood.listed⟩, scoring_afterScore hcoherent slot, ⟨?_, ?_⟩, ?_,
    ⟨?_, ?_, ?_⟩, ⟨?_, ?_, ?_, ?_⟩⟩
  · exact discussions_settled hcoherent slot
  · exact ⟨_, score_production slot ledger, score_settled_eq_worth hgood hcoherent⟩
  · intro user discussion hunknown
    by_contra hinterest
    have hknown := hcoherent.discussion_known (Nat.pos_of_ne_zero hinterest)
    rw [mem_discussionIds] at hknown
    have hpast := List.getElem?_eq_none_iff.1 hunknown
    omega
  · exact not_aggrieved_settled hcoherent slot
  · exact fun _ => attending_settled_of_not_aggrieved hcoherent
  · exact fun _ => attending_settled_of_aggrieved hcoherent
  · exact score_strict_error_iff hcoherent
  · exact afterScore_strict slot ledger
  · exact fun _ _ => score_strict_ok hcoherent
  · exact fun _ => score_strict_cause hcoherent

/-- One user and two discussions, with the points the user gives to either. -/
def twoTalks (first second : Int) : Ledger :=
  (((((∅ : Ledger).addUser "ada").2.addDiscussion ⟨0⟩ "compilers" true 1).2.addDiscussion
    ⟨0⟩ "databases" true 1).2.setInterest ⟨0⟩ ⟨0⟩ first).2.setInterest ⟨0⟩ ⟨1⟩ second |>.2

theorem twoTalks_reachable (first second : Int) : (twoTalks first second).Reachable :=
  .setInterest _ _ _ (.setInterest _ _ _
    (.addDiscussion _ _ _ _ (.addDiscussion _ _ _ _ (.addUser _ .empty))))

/-- A slot that was filled when the first of the two was liked better. -/
def outdatedSlot : Slot :=
  (((∅ : Slot).assign (twoTalks 90 10) ⟨0⟩).1.assign (twoTalks 90 10) ⟨1⟩).1

theorem outdatedSlot_reachable : outdatedSlot.Reachable :=
  .assign _ (twoTalks_reachable 90 10) (.assign _ (twoTalks_reachable 90 10) .empty)

theorem score_computes_worth_of_outdatedSlot :
    outdatedSlot.Reachable ∧ (twoTalks 10 90).Reachable ∧
      outdatedSlot.attending ⟨0⟩ = some ⟨0⟩ ∧
      (outdatedSlot.settled (twoTalks 10 90)).attending ⟨0⟩ = some ⟨1⟩ ∧
      (∃ score,
        outdatedSlot.score (twoTalks 10 90) .production =
            .ok (outdatedSlot.settled (twoTalks 10 90), score) ∧ score.score = 90) ∧
      ∃ cause, outdatedSlot.score (twoTalks 10 90) .strict = .error cause := by
  have hall := score_computes_worth_of_any_slot outdatedSlot_reachable (twoTalks_reachable 10 90)
  obtain ⟨_, _, ⟨_, score, hscore, hworth⟩, _, _, hstrict, _⟩ := hall
  refine ⟨outdatedSlot_reachable, twoTalks_reachable 10 90, by decide, by decide,
    ⟨score, hscore, ?_⟩, ?_⟩
  · rw [hworth]
    decide
  · exact hstrict.2 ⟨⟨0⟩, by decide⟩

end Slot

end Unconference
