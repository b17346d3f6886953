import Unconference.Proofs.Search.Seating
import Unconference.Proofs.Snapshot

/-!
# Strict and lenient searches

Validation is about attendance that does not agree with the ledger, and a search never comes across
any: the template seats everybody anew, whatever interests the prior schedule was made for, and
every later step keeps seating up to date.  So a search goes the same way under either validation,
draw by draw, and comes to the same schedule or to the same failure.
-/

namespace Unconference

/-- Two ways to go on agree if they agree on all that may be delivered. -/
theorem Delivers.bind_congr
    {σ α β : Type} [RandomSource σ] {source : σ} {good : α → Prop}
    {answer : Except SearchFailure (α × σ)} (hanswer : Delivers source good answer)
    {left right : α × σ → Except SearchFailure β}
    (hsame : ∀ found rest, good found → left (found, rest) = right (found, rest)) :
    answer >>= left = answer >>= right := by
  cases answer with
  | error failure => rfl
  | ok found => exact hsame found.1 found.2 hanswer.1

namespace Snapshot

/-- The same snapshot under another validation. -/
def under (snapshot : Snapshot) (validation : Validation) : Snapshot := { snapshot with validation }

section

variable {snapshot : Snapshot} (validation : Validation) {σ : Type} [RandomSource σ]

@[simp] theorem ledger_under : (snapshot.under validation).ledger = snapshot.ledger := rfl

@[simp] theorem template_under : (snapshot.under validation).template = snapshot.template := rfl

@[simp] theorem greedy_under : (snapshot.under validation).greedy = snapshot.greedy := rfl

@[simp] theorem randomSchedule_under (source : σ) :
    (snapshot.under validation).randomSchedule source = snapshot.randomSchedule source := rfl

variable (hledger : snapshot.ledger.Coherent)

include hledger

theorem scored_under {schedule : Schedule} (hfresh : schedule.Fresh snapshot.ledger) :
    (snapshot.under validation).scored schedule = snapshot.scored schedule := by
  unfold scored
  rw [ledger_under, hfresh.score hledger, hfresh.score hledger]

/-! ## The strategies -/

theorem greedyCandidate_under :
    (snapshot.under validation).greedyCandidate = snapshot.greedyCandidate := by
  have hfresh := (snapshot.builds_greedy.fits hledger).fresh
  unfold greedyCandidate
  rw [greedy_under, scored_under validation hledger hfresh]

theorem randomCandidate_under (source : σ) :
    (snapshot.under validation).randomCandidate source = snapshot.randomCandidate source := by
  unfold randomCandidate
  rw [randomSchedule_under]
  have hrandom := Schedule.handling_assignAllRandomly snapshot.ledger snapshot.template
    snapshot.worklist source
  refine hrandom.delivers.bind_congr ?_
  intro schedule rest hhandling
  have hfresh := hhandling.fresh hledger (fresh_template hledger)
  simp only [scored_under validation hledger hfresh]

theorem restartsFrom_under
    (clock : Clock) (budget elapsed : Nat) (best : Candidate) (built : Nat) (source : σ) :
    (snapshot.under validation).restartsFrom clock budget elapsed best built source =
      snapshot.restartsFrom clock budget elapsed best built source := by
  induction htime : budget - elapsed using Nat.strong_induction_on
    generalizing elapsed best built source with
  | h time ih =>
      rw [restartsFrom, restartsFrom, randomCandidate_under validation hledger]
      by_cases hover : budget ≤ elapsed
      · rw [if_pos hover, if_pos hover]
      · rw [if_neg hover, if_neg hover]
        refine (randomCandidate_delivers hledger source).bind_congr ?_
        intro candidate rest _
        have htick := clock.tick_pos
        have hless : budget - (elapsed + clock.tick) < time := by omega
        exact ih _ hless _ _ _ _ rfl

theorem restarts_under (clock : Clock) (budget : Nat) (source : σ) :
    (snapshot.under validation).restarts clock budget source =
      snapshot.restarts clock budget source := by
  unfold restarts
  rw [randomCandidate_under validation hledger]
  refine (randomCandidate_delivers hledger source).bind_congr ?_
  intro first rest _
  exact restartsFrom_under validation hledger clock budget clock.tick first 1 rest

theorem mutant_under
    (most : Nat) {schedule : Schedule} (hfresh : schedule.Fresh snapshot.ledger) (source : σ) :
    (snapshot.under validation).mutant most schedule source =
      snapshot.mutant most schedule source := by
  unfold mutant
  rw [ledger_under]
  refine (Schedule.handling_mutate snapshot.ledger schedule most source).delivers.bind_congr ?_
  rintro ⟨moved, after⟩ rest hhandling
  simp only [scored_under validation hledger (hhandling.fresh hledger hfresh)]

theorem climbFrom_under
    (clock : Clock) (budget elapsed most : Nat) {current : Candidate}
    (hfresh : current.schedule.Fresh snapshot.ledger) (steps : Nat) (source : σ) :
    (snapshot.under validation).climbFrom clock budget elapsed most current steps source =
      snapshot.climbFrom clock budget elapsed most current steps source := by
  induction htime : budget - elapsed using Nat.strong_induction_on
    generalizing elapsed current steps source with
  | h time ih =>
      rw [climbFrom, climbFrom, mutant_under validation hledger most hfresh]
      by_cases hover : budget ≤ elapsed
      · rw [if_pos hover, if_pos hover]
      · rw [if_neg hover, if_neg hover]
        refine (mutant_delivers_fresh hledger most hfresh source).bind_congr ?_
        intro mutant rest hmutant
        have htick := clock.tick_pos
        have hless : budget - (elapsed + clock.tick) < time := by omega
        -- whichever of the two schedules is kept seats everybody as refreshing would
        refine ih _ hless _ ?_ _ _ rfl
        split
        · exact hmutant
        · exact hfresh

theorem climb_under
    (clock : Clock) (budget most : Nat) {start : Schedule}
    (hfresh : start.Fresh snapshot.ledger) (source : σ) :
    (snapshot.under validation).climb clock budget most start source =
      snapshot.climb clock budget most start source := by
  unfold climb
  rw [scored_under validation hledger hfresh]
  simp only [scored, hfresh.score hledger]
  exact climbFrom_under validation hledger clock budget clock.tick most hfresh 0 source

/-! ## Searches -/

theorem greedyRun_under (algorithm : Algorithm) :
    (snapshot.under validation).greedyRun algorithm = snapshot.greedyRun algorithm := by
  unfold greedyRun
  rw [greedyCandidate_under validation hledger]

theorem randomRun_under (options : SearchOptions) (clock : Clock) (source : σ) :
    (snapshot.under validation).randomRun options clock source =
      snapshot.randomRun options clock source := by
  unfold randomRun
  rw [restarts_under validation hledger]

theorem settle_under
    (options : SearchOptions) (clock : Clock) {greedy : Option Candidate}
    (hfresh : ∀ candidate, greedy = some candidate → candidate.schedule.Fresh snapshot.ledger)
    (random : Option Kept) (source : σ) :
    (snapshot.under validation).settle options clock greedy random source =
      snapshot.settle options clock greedy random source := by
  unfold settle
  cases greedy with
  | none => cases random <;> rfl
  | some greedy =>
      have hclimb := climb_under validation hledger clock options.duration options.mutationMax
        (hfresh greedy rfl) source
      cases random with
      | none => simp only [hclimb]
      | some kept => rfl

theorem explore_under (options : SearchOptions) (clock : Clock) (source : σ) :
    (snapshot.under validation).explore options clock source =
      snapshot.explore options clock source := by
  unfold explore
  rw [greedyRun_under validation hledger, randomRun_under validation hledger,
    greedyRun_eq hledger]
  refine (randomRun_delivers hledger options clock source).bind_congr ?_
  intro random later _
  apply settle_under validation hledger options clock
  intro candidate hcandidate
  obtain ⟨_, ⟨⟩⟩ := Option.ite_none_right_eq_some.1 hcandidate
  exact (snapshot.builds_greedy.fits hledger).fresh

theorem search_under (options : SearchOptions) (clock : Clock) (source : σ) :
    (snapshot.under validation).search options clock source =
      snapshot.search options clock source := by
  unfold search
  rw [explore_under validation hledger, template_under]

/-- What can keep a search from a schedule, if the prior may list a discussion twice. -/
theorem failure_of_search
    {options : SearchOptions} {clock : Clock} {source : σ} {failure : SearchFailure}
    (hsearch : snapshot.search options clock source = .error failure) :
    failure = .drawsExhausted ∨
      ∃ discussion, failure = .inconsistent (.duplicatePlacement discussion) := by
  have hexplore := explore_answers hledger options clock source
  unfold search at hsearch
  cases hfound : snapshot.explore options clock source with
  | error cause =>
      rw [hfound] at hexplore hsearch
      obtain rfl : cause = failure := Except.error.inj hsearch
      exact .inl hexplore.1
  | ok found =>
      rw [hfound] at hexplore hsearch
      have hlocked := hexplore.builds.checkLocked hledger
      right
      cases hrepeated : Schedule.firstRepeated [] found.schedule.listings with
      | none =>
          simp [Schedule.check, Schedule.checkUnique, hrepeated, hlocked, Except.mapError, bind,
            Except.bind, pure, Except.pure] at hsearch
      | some discussion =>
          refine ⟨discussion, ?_⟩
          simpa [Schedule.check, Schedule.checkUnique, hrepeated, Except.mapError, bind,
            Except.bind] using hsearch.symm

end

/-- Strict validation of a ledger that was built by its operations finds nothing, so a snapshot is
taken or refused for the same reasons under either. -/
theorem take_under
    {ledger : Ledger} (hledger : ledger.Coherent) (locked : SlotSet) (slotCount : Nat)
    (prior : Option Schedule) (validation : Validation) :
    take ledger locked slotCount prior validation =
      (take ledger locked slotCount prior .production).map (·.under validation) := by
  unfold take
  rw [hledger.validate_eq]
  split
  · split <;> rfl
  · rfl

/-- Whatever the prior schedule is and whatever is drawn, nobody can tell from a search under which
validation it ran: none has anything to refuse, and none has anything to mend. -/
theorem validation_is_unobservable
    {ledger : Ledger} (hledger : ledger.Reachable) (locked : SlotSet) (slotCount : Nat)
    (prior : Option Schedule) :
    take ledger locked slotCount prior .strict =
        (take ledger locked slotCount prior .production).map
          (fun lenient => { lenient with validation := .strict }) ∧
      ∀ careful lenient,
        take ledger locked slotCount prior .strict = .ok careful →
        take ledger locked slotCount prior .production = .ok lenient →
        (∀ {σ : Type} [RandomSource σ] (options : SearchOptions) (clock : Clock) (source : σ),
          careful.search options clock source = lenient.search options clock source ∧
            ∀ failure, careful.search options clock source = .error failure →
              failure = .drawsExhausted ∨
                ∃ discussion, failure = .inconsistent (.duplicatePlacement discussion)) ∧
        ∀ schedule, lenient.Produces schedule → ∀ validation,
          schedule.score ledger validation = .ok (schedule, schedule.totalScore ledger) := by
  have hcoherent := hledger.coherent
  have htakes := take_under hcoherent locked slotCount prior .strict
  refine ⟨htakes, ?_⟩
  intro careful lenient hcareful hlenient
  have hsnapshot := take_eq_ok hlenient
  have hsame : lenient.ledger = ledger := by rw [hsnapshot]
  rw [hcareful, hlenient] at htakes
  obtain rfl : careful = lenient.under .strict := Except.ok.inj htakes
  subst ledger
  constructor
  · intro σ _ options clock source
    have hsearch := search_under .strict hcoherent options clock source
    refine ⟨hsearch, ?_⟩
    intro failure hfailure
    rw [hsearch] at hfailure
    exact failure_of_search hcoherent hfailure
  · intro schedule hproduces validation
    exact (hproduces.fresh hcoherent).score hcoherent validation

/-- The talk in the locked slot had no audience when the prior schedule was made. -/
def outdatedPrior : Schedule where
  slots := [∅, ((∅ : Slot).assign (Slot.twoTalks 0 10) ⟨0⟩).1]
  locked := SlotSet.ofList [1]

theorem validation_is_unobservable_after_outdatedPrior :
    (Slot.twoTalks 90 10).Reachable ∧
      (∃ cause, outdatedPrior.score (Slot.twoTalks 90 10) .strict = .error cause) ∧
      ∃ careful lenient outcome,
        take (Slot.twoTalks 90 10) (SlotSet.ofList [1]) 2 (some outdatedPrior) .strict =
            .ok careful ∧
          take (Slot.twoTalks 90 10) (SlotSet.ofList [1]) 2 (some outdatedPrior) .production =
            .ok lenient ∧
          careful.search { algorithm := .climb, duration := 3 } {} (⟨[3, 1, 4]⟩ : WordList) =
            .ok outcome ∧
          lenient.search { algorithm := .climb, duration := 3 } {} (⟨[3, 1, 4]⟩ : WordList) =
            .ok outcome := by
  have hreach := Slot.twoTalks_reachable 90 10
  obtain ⟨_, hsearches⟩ :=
    validation_is_unobservable hreach (SlotSet.ofList [1]) 2 (some outdatedPrior)
  let lenient : Snapshot := {
    ledger := Slot.twoTalks 90 10, locked := SlotSet.ofList [1], slotCount := 2
    prior := some outdatedPrior, worklist := [⟨1⟩], validation := .production }
  have hlenient : take (Slot.twoTalks 90 10) (SlotSet.ofList [1]) 2 (some outdatedPrior)
      .production = .ok lenient := by
    decide
  have hcareful : take (Slot.twoTalks 90 10) (SlotSet.ofList [1]) 2 (some outdatedPrior)
      .strict = .ok { lenient with validation := .strict } := by
    decide
  obtain ⟨hsame, _⟩ := hsearches _ _ hcareful hlenient
  have hdistinct : (lenient.worklist ++ lenient.template.listings).Nodup := by decide
  have hanswers := search_answers hreach.coherent hdistinct
    { algorithm := .climb, duration := 3 } {} (⟨[3, 1, 4]⟩ : WordList)
  obtain ⟨outcome, hsearch⟩ := hanswers.exists_ok (WordList.drawsReturn _)
  refine ⟨hreach, ?_, _, _, outcome, hcareful, hlenient, ?_, hsearch⟩
  · exact ⟨.suboptimalAttendance ⟨0⟩ ⟨0⟩ ⟨0⟩, by decide⟩
  · rw [(hsame _ _ _).1]
    exact hsearch

end Snapshot

end Unconference
