import Unconference.Proofs.Search.Outcome
import Unconference.Proofs.Slot.Seating

/-!
# Seating in the schedules of a search

The template seats everybody anew and every step of handling keeps seating up to date, so all slots
of all schedules that a search builds, locked or not, seat everybody as refreshing would.  The same
holds of what mutating and climbing make of any schedule that seats everybody so.
-/

namespace Unconference

theorem Handling.fresh
    {ledger : Ledger} (hledger : ledger.Coherent) {spared : Schedule → DiscussionId → Prop}
    {hand handAfter : List DiscussionId} {schedule after : Schedule}
    (hhandling : Handling ledger spared hand schedule handAfter after)
    (hfresh : schedule.Fresh ledger) : after.Fresh ledger := by
  induction hhandling with
  | done => exact hfresh
  | put _ _ ih => exact ih (hfresh.assign hledger _ _)
  | spare _ _ ih => exact ih hfresh
  | take _ _ _ _ ih => exact ih (hfresh.remove _ _)

theorem Schedule.Fresh.of_forall_seated
    {schedule : Schedule} {ledger : Ledger}
    (hseated : ∀ slot ∈ schedule.slots, slot.Seated ledger) : schedule.Fresh ledger := by
  intro index slot hslot
  exact Slot.seated_iff_fresh.1 (hseated slot (List.mem_of_getElem? hslot))

namespace Snapshot

variable {snapshot : Snapshot} {σ : Type} [RandomSource σ]

theorem mutant_delivers_fresh
    (hledger : snapshot.ledger.Coherent) (most : Nat) {schedule : Schedule}
    (hfresh : schedule.Fresh snapshot.ledger) (source : σ) :
    Delivers source (fun mutant : Candidate => mutant.schedule.Fresh snapshot.ledger)
      (snapshot.mutant most schedule source) := by
  unfold mutant
  refine (Schedule.handling_mutate snapshot.ledger schedule most source).delivers.bind ?_
  rintro ⟨moved, after⟩ later hhandling
  have hafter := hhandling.fresh hledger hfresh
  simp only [Snapshot.scored, hafter.score hledger]
  exact .pure hafter

theorem climb_delivers_fresh
    (hledger : snapshot.ledger.Coherent) (clock : Clock) (budget most : Nat) {start : Schedule}
    (hfresh : start.Fresh snapshot.ledger) (source : σ) :
    Delivers source (fun kept : Kept => kept.candidate.schedule.Fresh snapshot.ledger)
      (snapshot.climb clock budget most start source) := by
  unfold climb
  simp only [Snapshot.scored, hfresh.score hledger]
  have hmutant : ∀ (current : Candidate) (source : σ),
      current.schedule.Fresh snapshot.ledger →
        Delivers source (fun mutant : Candidate => mutant.schedule.Fresh snapshot.ledger)
          (snapshot.mutant most current.schedule source) :=
    fun _ source hcurrent => mutant_delivers_fresh hledger most hcurrent source
  have hstart : (⟨start, start.totalScore snapshot.ledger⟩ : Candidate).schedule.Fresh
      snapshot.ledger := hfresh
  have hclimb := climbFrom_delivers hmutant clock budget clock.tick hstart 0 source
  exact hclimb.imp fun _ hkept => hkept.1

/-- The schedules that the parts of a search come to.  Mutating and climbing may begin with any
schedule that seats everybody as refreshing would. -/
inductive Produces (snapshot : Snapshot) : Schedule → Prop
  | template : Produces snapshot snapshot.template
  | greedy : Produces snapshot snapshot.greedy
  | random {σ : Type} [RandomSource σ] {source rest : σ} {schedule : Schedule} :
      snapshot.randomSchedule source = some (schedule, rest) → Produces snapshot schedule
  | restarts {σ : Type} [RandomSource σ] {clock : Clock} {budget : Nat} {source rest : σ}
      {kept : Kept} :
      snapshot.restarts clock budget source = .ok (kept, rest) →
        Produces snapshot kept.candidate.schedule
  | search {σ : Type} [RandomSource σ] {options : SearchOptions} {clock : Clock} {source : σ}
      {outcome : SearchOutcome} :
      snapshot.search options clock source = .ok outcome → Produces snapshot outcome.schedule
  | mutate {σ : Type} [RandomSource σ] {start after : Schedule} {most : Nat} {source rest : σ}
      {moved : List DiscussionId} :
      (∀ slot ∈ start.slots, slot.Seated snapshot.ledger) →
        start.mutate snapshot.ledger most source = some ((moved, after), rest) →
          Produces snapshot after
  | climb {σ : Type} [RandomSource σ] {clock : Clock} {budget most : Nat} {start : Schedule}
      {source rest : σ} {kept : Kept} :
      (∀ slot ∈ start.slots, slot.Seated snapshot.ledger) →
        snapshot.climb clock budget most start source = .ok (kept, rest) →
          Produces snapshot kept.candidate.schedule

theorem Produces.fresh
    {schedule : Schedule} (hproduces : snapshot.Produces schedule)
    (hledger : snapshot.ledger.Coherent) : schedule.Fresh snapshot.ledger := by
  cases hproduces with
  | template => exact fresh_template hledger
  | greedy => exact (snapshot.builds_greedy.fits hledger).fresh
  | @random _ _ source rest schedule hrandom =>
      have hhandling := Schedule.handling_assignAllRandomly snapshot.ledger snapshot.template
        snapshot.worklist source
      exact (hhandling.of_eq_some hrandom).fresh hledger (fresh_template hledger)
  | @restarts _ _ clock budget source rest kept hrestarts =>
      have hdelivers := (restarts_delivers hledger clock budget source).of_ok hrestarts
      exact (hdelivers.1.builds.fits hledger).fresh
  | search hsearch => exact ((finds_of_search_eq_ok hledger hsearch).builds.fits hledger).fresh
  | @mutate _ _ start after most source rest moved hstart hmutate =>
      have hhandling := Schedule.handling_mutate snapshot.ledger start most source
      exact (hhandling.of_eq_some hmutate).fresh hledger (.of_forall_seated hstart)
  | @climb _ _ clock budget most start source rest kept hstart hclimb =>
      exact ((climb_delivers_fresh hledger clock budget most
        (.of_forall_seated hstart) source).of_ok hclimb).1

end Snapshot

namespace Ledger

/-- Under one ledger attendance depends on nothing but the list of discussions: it is what seating
everybody anew gives, in every slot that was tended and in all that searches build of them. -/
theorem kept_attendance_is_refreshed_attendance {ledger : Ledger} (hledger : ledger.Reachable) :
    (∀ {slot : Slot}, slot.Tended ledger →
      (∀ user, slot.attending user = none ↔
        ∀ discussion ∈ slot.discussions, ledger.interest user discussion = 0) ∧
      (∀ user discussion, slot.attending user = some discussion ↔
        FirstBest (ledger.interest user) slot.discussions discussion) ∧
      slot.refreshed ledger = slot) ∧
    (∀ {slot : Slot}, slot.refreshed ledger = slot ↔ slot.Seated ledger) ∧
    (∀ {left right : Slot}, left.Tended ledger → right.Tended ledger →
      left.discussions = right.discussions → left = right) ∧
    ∀ {snapshot : Snapshot} {schedule : Schedule}, snapshot.ledger = ledger →
      snapshot.Produces schedule →
        ∀ slot ∈ schedule.slots, slot.Seated ledger ∧ slot.refreshed ledger = slot := by
  have hcoherent := hledger.coherent
  refine ⟨?_, ?_, ?_, ?_⟩
  · intro slot htended
    have hfresh := htended.fresh hcoherent
    have hseated := Slot.seated_iff_fresh.2 hfresh
    exact ⟨hseated.absent_iff, hseated.attends_iff, (Slot.refreshed_eq_self_iff hcoherent).2 hfresh⟩
  · intro slot
    rw [Slot.refreshed_eq_self_iff hcoherent, Slot.seated_iff_fresh]
  · intro left right hleft hright hdiscussions
    exact (hleft.fresh hcoherent).eq_of_discussions_eq (hright.fresh hcoherent) hdiscussions
  · intro snapshot schedule hsnapshot hproduces slot hmem
    subst ledger
    have hfresh := (hproduces.fresh hcoherent).of_mem_slots slot hmem
    exact ⟨Slot.seated_iff_fresh.2 hfresh, (Slot.refreshed_eq_self_iff hcoherent).2 hfresh⟩

/-- Both talks are liked equally when the first of them is taken out and put back. -/
def reassignedSlot : Slot :=
  let both := (((∅ : Slot).assign (Slot.twoTalks 50 50) ⟨0⟩).1.assign (Slot.twoTalks 50 50) ⟨1⟩).1
  ((both.remove (Slot.twoTalks 50 50) ⟨0⟩).1.assign (Slot.twoTalks 50 50) ⟨0⟩).1

theorem reassignedSlot_tended : reassignedSlot.Tended (Slot.twoTalks 50 50) :=
  .assign _ (.remove _ (.assign _ (.assign _ .empty)))

def tiedSnapshot : Snapshot where
  ledger := Slot.twoTalks 50 50
  locked := ∅
  slotCount := 1
  prior := none
  worklist := [⟨0⟩, ⟨1⟩]
  validation := .strict

theorem kept_attendance_of_reassignedSlot :
    (Slot.twoTalks 50 50).Reachable ∧ reassignedSlot.Tended (Slot.twoTalks 50 50) ∧
      reassignedSlot.discussions = [⟨1⟩, ⟨0⟩] ∧ reassignedSlot.attending ⟨0⟩ = some ⟨1⟩ ∧
      reassignedSlot.refreshed (Slot.twoTalks 50 50) = reassignedSlot ∧
      reassignedSlot =
        (((∅ : Slot).assign (Slot.twoTalks 50 50) ⟨1⟩).1.assign (Slot.twoTalks 50 50) ⟨0⟩).1 ∧
      ∃ outcome,
        tiedSnapshot.search { algorithm := .climb, duration := 3 } {} (⟨[3, 1, 4]⟩ : WordList) =
            .ok outcome ∧
          ∀ slot ∈ outcome.schedule.slots, slot.Seated (Slot.twoTalks 50 50) := by
  have hreach := Slot.twoTalks_reachable 50 50
  obtain ⟨htended, _, hequal, hproduced⟩ := kept_attendance_is_refreshed_attendance hreach
  obtain ⟨_, hattends, hrefreshed⟩ := htended reassignedSlot_tended
  refine ⟨hreach, reassignedSlot_tended, by decide, ?_, hrefreshed, ?_, ?_⟩
  · rw [hattends]
    exact ⟨by decide, [], [⟨0⟩], by decide, by simp, by decide⟩
  · exact hequal reassignedSlot_tended (.assign _ (.assign _ .empty)) (by decide)
  · have hcoherent : tiedSnapshot.ledger.Coherent := hreach.coherent
    have hanswers := Snapshot.search_answers hcoherent (by decide)
      { algorithm := .climb, duration := 3 } {} (⟨[3, 1, 4]⟩ : WordList)
    obtain ⟨outcome, hsearch⟩ := hanswers.exists_ok (WordList.drawsReturn _)
    refine ⟨outcome, hsearch, fun slot hmem => ?_⟩
    exact (hproduced rfl (.search hsearch) slot hmem).1

end Ledger

end Unconference
