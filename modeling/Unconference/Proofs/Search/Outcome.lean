import Unconference.Proofs.Search.Placement
import Unconference.Search.Run

/-!
# What a search answers

Every schedule that a search keeps was built by handling the work list from the template on, however
long the search went on and whatever was drawn.  It therefore fits the snapshot, is scored as it
stands and passes the last check, so that the only thing that can keep a search from an answer is a
draw that does not return.
-/

namespace Unconference

theorem drawn_eq_ok {α : Type} {answer : Option α} {found : α} :
    drawn answer = .ok found ↔ answer = some found := by
  cases answer <;> simp [drawn]

namespace Algorithm

variable {algorithm : Algorithm}

theorem buildsGreedily_eq_false_iff : algorithm.buildsGreedily = false ↔ algorithm = .random := by
  cases algorithm <;> simp [buildsGreedily]

theorem restarts_eq_false_iff :
    algorithm.restarts = false ↔ algorithm = .heuristic ∨ algorithm = .climb := by
  cases algorithm <;> simp [restarts]

theorem eq_combined_iff :
    algorithm = .combined ↔ algorithm.buildsGreedily = true ∧ algorithm.restarts = true := by
  cases algorithm <;> simp [buildsGreedily, restarts]

end Algorithm

section

variable {σ α β : Type} [RandomSource σ]

/-- A search answers something good unless its draws do not return, and fails only then. -/
def Answers (source : σ) (good : α → Prop) : Except SearchFailure α → Prop
  | .ok answer => good answer
  | .error failure => failure = .drawsExhausted ∧ ¬ DrawsReturn source

/-- The same of a step of a search, which hands the source on. -/
def Delivers (source : σ) (good : α → Prop) : Except SearchFailure (α × σ) → Prop :=
  Answers source fun found => good found.1 ∧ (DrawsReturn source → DrawsReturn found.2)

theorem Answers.exists_ok
    {source : σ} {good : α → Prop} {answer : Except SearchFailure α}
    (hanswer : Answers source good answer) (hsource : DrawsReturn source) :
    ∃ found, answer = .ok found := by
  cases answer with
  | error failure => exact absurd hsource hanswer.2
  | ok found => exact ⟨found, rfl⟩

theorem Answers.of_ok
    {source : σ} {good : α → Prop} {answer : Except SearchFailure α}
    (hanswer : Answers source good answer) {found : α} (hfound : answer = .ok found) :
    good found := by
  rw [hfound] at hanswer
  exact hanswer

theorem Answers.of_error
    {source : σ} {good : α → Prop} {answer : Except SearchFailure α}
    (hanswer : Answers source good answer) {failure : SearchFailure}
    (hfailure : answer = .error failure) :
    failure = .drawsExhausted ∧ ¬ DrawsReturn source := by
  rw [hfailure] at hanswer
  exact hanswer

theorem Answers.imp
    {source : σ} {good better : α → Prop} {answer : Except SearchFailure α}
    (hanswer : Answers source good answer) (himp : ∀ found, good found → better found) :
    Answers source better answer := by
  cases answer with
  | error failure => exact hanswer
  | ok found => exact himp found hanswer

/-- If the draws do not return later on, they do not return from the beginning. -/
theorem Answers.of_earlier
    {source later : σ} {good : α → Prop} {answer : Except SearchFailure α}
    (hanswer : Answers later good answer) (hreturns : DrawsReturn source → DrawsReturn later) :
    Answers source good answer := by
  cases answer with
  | error failure => exact ⟨hanswer.1, mt hreturns hanswer.2⟩
  | ok found => exact hanswer

theorem Delivers.pure {source : σ} {good : α → Prop} {answer : α} (hgood : good answer) :
    Delivers source good (.ok (answer, source)) :=
  ⟨hgood, id⟩

theorem Yields.delivers
    {source : σ} {good : α → Prop} {answer : Option (α × σ)}
    (hanswer : Yields source good answer) : Delivers source good (drawn answer) := by
  cases answer with
  | none => exact ⟨rfl, hanswer⟩
  | some found => exact hanswer

theorem Delivers.answers
    {source : σ} {good : α → Prop} {better : β → Prop} {answer : Except SearchFailure (α × σ)}
    (hanswer : Delivers source good answer) {next : α × σ → Except SearchFailure β}
    (hnext : ∀ found rest, answer = .ok (found, rest) → good found →
      Answers rest better (next (found, rest))) :
    Answers source better (answer >>= next) := by
  cases answer with
  | error failure => exact hanswer
  | ok found => exact (hnext found.1 found.2 rfl hanswer.1).of_earlier hanswer.2

theorem Delivers.bind
    {source : σ} {good : α → Prop} {better : β → Prop} {answer : Except SearchFailure (α × σ)}
    (hanswer : Delivers source good answer) {next : α × σ → Except SearchFailure (β × σ)}
    (hnext : ∀ found rest, good found → Delivers rest better (next (found, rest))) :
    Delivers source better (answer >>= next) := by
  refine hanswer.answers ?_
  intro found rest hfound hgood
  have hreturns := (Answers.of_ok hanswer hfound).2
  refine Answers.imp (hnext found rest hgood) ?_
  intro final hfinal
  exact ⟨hfinal.1, fun hsource => hfinal.2 (hreturns hsource)⟩

theorem Delivers.imp
    {source : σ} {good better : α → Prop} {answer : Except SearchFailure (α × σ)}
    (hanswer : Delivers source good answer) (himp : ∀ found, good found → better found) :
    Delivers source better answer :=
  Answers.imp hanswer fun found hfound => ⟨himp found.1 hfound.1, hfound.2⟩

end

namespace Snapshot

/-! ## Schedules that searches build -/

/-- The work list was handled, in some order, from the template on. -/
def Builds (snapshot : Snapshot) (schedule : Schedule) : Prop :=
  ∃ hand : List DiscussionId, hand.Perm snapshot.worklist ∧
    Handling snapshot.ledger (Schedule.AddsNothing snapshot.ledger) hand snapshot.template
      [] schedule

variable {snapshot : Snapshot} {schedule : Schedule}

theorem Builds.fits (hbuilds : snapshot.Builds schedule) (hledger : snapshot.ledger.Coherent) :
    schedule.Fits snapshot [] := by
  obtain ⟨hand, hperm, hhandling⟩ := hbuilds
  exact hhandling.fits hledger (Schedule.fits_template hledger hperm.subset)

theorem Builds.nodup
    (hbuilds : snapshot.Builds schedule)
    (hdistinct : (snapshot.worklist ++ snapshot.template.listings).Nodup) :
    schedule.listings.Nodup := by
  obtain ⟨hand, hperm, hhandling⟩ := hbuilds
  exact hhandling.nodup ((hperm.append_right _).nodup_iff.2 hdistinct)

theorem Builds.handle
    (hbuilds : snapshot.Builds schedule) {after : Schedule}
    (hhandling : Handling snapshot.ledger (Schedule.Excludes snapshot.ledger) [] schedule
      [] after) : snapshot.Builds after := by
  obtain ⟨hand, hperm, hbuilt⟩ := hbuilds
  exact ⟨hand, hperm, hbuilt.trans (hhandling.mono fun _ _ => Schedule.Excludes.addsNothing)⟩

theorem Builds.scored
    (hbuilds : snapshot.Builds schedule) (hledger : snapshot.ledger.Coherent) :
    snapshot.scored schedule = .ok (schedule, schedule.totalScore snapshot.ledger) := by
  unfold Snapshot.scored
  rw [(hbuilds.fits hledger).fresh.score hledger]
  rfl

theorem Builds.checkLocked
    (hbuilds : snapshot.Builds schedule) (hledger : snapshot.ledger.Coherent) :
    schedule.checkLocked snapshot.template = .ok () := by
  have hfits := hbuilds.fits hledger
  rw [Schedule.checkLocked_eq_ok_iff]
  intro index hlocked
  rw [hfits.isLocked] at hlocked
  unfold Schedule.discussionsAt
  rw [hfits.kept index hlocked]

theorem Builds.check
    (hbuilds : snapshot.Builds schedule) (hledger : snapshot.ledger.Coherent)
    (hdistinct : (snapshot.worklist ++ snapshot.template.listings).Nodup) :
    schedule.check snapshot.template = .ok () := by
  have hunique := (Schedule.checkUnique_eq_ok_iff schedule).2 (hbuilds.nodup hdistinct)
  unfold Schedule.check
  rw [hunique]
  exact hbuilds.checkLocked hledger

theorem builds_greedy (snapshot : Snapshot) : snapshot.Builds snapshot.greedy :=
  ⟨snapshot.byDemand, List.mergeSort_perm _ _,
    Schedule.handling_foldl_placeGreedily _ _ _⟩

/-! ## Candidates -/

structure Correct (snapshot : Snapshot) (candidate : Candidate) : Prop where
  builds : snapshot.Builds candidate.schedule
  score : candidate.score = candidate.schedule.totalScore snapshot.ledger

/-- The score of the greedy schedule. -/
def greedyScore (snapshot : Snapshot) : Nat :=
  (snapshot.greedy.totalScore snapshot.ledger).score

/-- The greedy schedule with its score. -/
def greedyFound (snapshot : Snapshot) : Candidate where
  schedule := snapshot.greedy
  score := snapshot.greedy.totalScore snapshot.ledger

theorem correct_greedyFound (snapshot : Snapshot) : snapshot.Correct snapshot.greedyFound :=
  ⟨snapshot.builds_greedy, rfl⟩

theorem greedyCandidate_eq (hledger : snapshot.ledger.Coherent) :
    snapshot.greedyCandidate = .ok snapshot.greedyFound := by
  unfold greedyCandidate
  rw [snapshot.builds_greedy.scored hledger]
  rfl

variable {σ : Type} [RandomSource σ]

theorem randomCandidate_delivers (hledger : snapshot.ledger.Coherent) (source : σ) :
    Delivers source snapshot.Correct (snapshot.randomCandidate source) := by
  unfold randomCandidate randomSchedule
  have hrandom := Schedule.handling_assignAllRandomly snapshot.ledger snapshot.template
    snapshot.worklist source
  refine hrandom.delivers.bind ?_
  intro schedule later hhandling
  have hbuilds : snapshot.Builds schedule :=
    ⟨snapshot.worklist, .rfl, hhandling.mono fun _ _ => Schedule.Excludes.addsNothing⟩
  simp only [hbuilds.scored hledger]
  exact .pure ⟨hbuilds, rfl⟩

theorem restartsFrom_delivers
    (hledger : snapshot.ledger.Coherent) (clock : Clock) (budget elapsed : Nat)
    {best : Candidate} (hbest : snapshot.Correct best) (built : Nat) (source : σ) :
    Delivers source (fun kept : Kept => snapshot.Correct kept.candidate)
      (snapshot.restartsFrom clock budget elapsed best built source) := by
  induction htime : budget - elapsed using Nat.strong_induction_on
    generalizing elapsed best built source with
  | h time ih =>
      rw [restartsFrom]
      split
      · exact .pure hbest
      · refine (randomCandidate_delivers hledger source).bind ?_
        intro candidate later hcandidate
        -- each reading of the clock leaves less of the budget
        have htick := clock.tick_pos
        have hless : budget - (elapsed + clock.tick) < time := by omega
        apply ih _ hless _ _ _ _ rfl
        split
        · exact hcandidate
        · exact hbest

theorem restarts_delivers
    (hledger : snapshot.ledger.Coherent) (clock : Clock) (budget : Nat) (source : σ) :
    Delivers source (fun kept : Kept => snapshot.Correct kept.candidate)
      (snapshot.restarts clock budget source) := by
  unfold restarts
  refine (randomCandidate_delivers hledger source).bind ?_
  intro first later hfirst
  exact restartsFrom_delivers hledger clock budget clock.tick hfirst 1 later

theorem mutant_delivers
    (hledger : snapshot.ledger.Coherent) (most : Nat) (hbuilds : snapshot.Builds schedule)
    (source : σ) :
    Delivers source snapshot.Correct (snapshot.mutant most schedule source) := by
  unfold mutant
  refine (Schedule.handling_mutate snapshot.ledger schedule most source).delivers.bind ?_
  rintro ⟨moved, after⟩ later hhandling
  have hafter := hbuilds.handle hhandling
  simp only [hafter.scored hledger]
  exact .pure ⟨hafter, rfl⟩

/-- Climbing keeps what every mutation keeps, and never ends below where it began. -/
theorem climbFrom_delivers
    {good : Candidate → Prop} {most : Nat}
    (hmutant : ∀ (current : Candidate) (source : σ), good current →
      Delivers source good (snapshot.mutant most current.schedule source))
    (clock : Clock) (budget elapsed : Nat) {current : Candidate} (hcurrent : good current)
    (steps : Nat) (source : σ) :
    Delivers source
      (fun kept : Kept => good kept.candidate ∧
        current.score.score ≤ kept.candidate.score.score)
      (snapshot.climbFrom clock budget elapsed most current steps source) := by
  induction htime : budget - elapsed using Nat.strong_induction_on
    generalizing elapsed current steps source with
  | h time ih =>
      rw [climbFrom]
      split
      · exact .pure ⟨hcurrent, le_rfl⟩
      · refine (hmutant current source hcurrent).bind ?_
        intro mutant later hgood
        have htick := clock.tick_pos
        have hless : budget - (elapsed + clock.tick) < time := by omega
        by_cases hle : current.score.score ≤ mutant.score.score
        · simp only [hle, if_true]
          refine (ih _ hless _ hgood _ _ rfl).imp ?_
          intro kept hkept
          exact ⟨hkept.1, le_trans hle hkept.2⟩
        · simp only [hle, if_false]
          exact ih _ hless _ hcurrent _ _ rfl

theorem climb_delivers
    (hledger : snapshot.ledger.Coherent) (clock : Clock) (budget most : Nat) (source : σ) :
    Delivers source
      (fun kept : Kept => snapshot.Correct kept.candidate ∧
        snapshot.greedyScore ≤ kept.candidate.score.score)
      (snapshot.climb clock budget most snapshot.greedy source) := by
  unfold climb
  rw [snapshot.builds_greedy.scored hledger]
  have hmutant : ∀ (current : Candidate) (source : σ), snapshot.Correct current →
      Delivers source snapshot.Correct (snapshot.mutant most current.schedule source) :=
    fun _ source hcurrent => mutant_delivers hledger most hcurrent.builds source
  exact climbFrom_delivers hmutant clock budget clock.tick ⟨snapshot.builds_greedy, rfl⟩ 0 source

/-! ## Searches -/

structure Finds (snapshot : Snapshot) (algorithm : Algorithm) (outcome : SearchOutcome) :
    Prop where
  builds : snapshot.Builds outcome.schedule
  score : outcome.score = outcome.schedule.totalScore snapshot.ledger
  greedy : algorithm ≠ .random → snapshot.greedyScore ≤ outcome.score.score

theorem greedyRun_eq (hledger : snapshot.ledger.Coherent) (algorithm : Algorithm) :
    snapshot.greedyRun algorithm =
      .ok (if algorithm.buildsGreedily then some snapshot.greedyFound else none) := by
  unfold greedyRun
  rw [greedyCandidate_eq hledger]
  split <;> rfl

theorem greedyRun_eq_ok
    {algorithm : Algorithm} {greedy : Option Candidate}
    (hgreedy : snapshot.greedyRun algorithm = .ok greedy) :
    greedy.isSome = algorithm.buildsGreedily ∧
      ∀ candidate, greedy = some candidate → snapshot.greedyCandidate = .ok candidate := by
  unfold greedyRun at hgreedy
  split at hgreedy
  · obtain ⟨candidate, hcandidate, hsome⟩ := bind_eq_ok.1 hgreedy
    obtain rfl := Except.ok.inj hsome
    simp [*]
  · obtain rfl := Except.ok.inj hgreedy
    simp [*]

theorem randomRun_eq_ok
    {options : SearchOptions} {clock : Clock} {source last : σ} {random : Option Kept}
    (hrandom : snapshot.randomRun options clock source = .ok (random, last)) :
    random.isSome = options.algorithm.restarts ∧
      (∀ kept, random = some kept →
        snapshot.restarts clock options.duration source = .ok (kept, last)) ∧
      (random = none → last = source) := by
  unfold randomRun at hrandom
  split at hrandom
  · obtain ⟨⟨kept, later⟩, hkept, hsome⟩ := bind_eq_ok.1 hrandom
    obtain ⟨rfl, rfl⟩ := Prod.mk.inj (Except.ok.inj hsome)
    simp [*]
  · obtain ⟨rfl, rfl⟩ := Prod.mk.inj (Except.ok.inj hrandom)
    simp [*]

/-- Whatever the algorithm is, there is something to settle for. -/
theorem greedy_or_random
    {options : SearchOptions} {clock : Clock} {source last : σ} {greedy : Option Candidate}
    {random : Option Kept} (hgreedy : snapshot.greedyRun options.algorithm = .ok greedy)
    (hrandom : snapshot.randomRun options clock source = .ok (random, last)) :
    ¬(greedy = none ∧ random = none) := by
  rintro ⟨rfl, rfl⟩
  have halgorithm : options.algorithm = .random :=
    Algorithm.buildsGreedily_eq_false_iff.1 (greedyRun_eq_ok hgreedy).1.symm
  have hrestarts : options.algorithm.restarts = false := (randomRun_eq_ok hrandom).1.symm
  simp [halgorithm, Algorithm.restarts] at hrestarts

theorem randomRun_delivers
    (hledger : snapshot.ledger.Coherent) (options : SearchOptions) (clock : Clock) (source : σ) :
    Delivers source
      (fun random => ∀ kept : Kept, random = some kept → snapshot.Correct kept.candidate)
      (snapshot.randomRun options clock source) := by
  unfold randomRun
  split
  · refine (restarts_delivers hledger clock options.duration source).bind ?_
    rintro kept later hkept
    apply Delivers.pure
    rintro _ ⟨⟩
    exact hkept
  · exact .pure (by simp)

theorem settle_answers
    (hledger : snapshot.ledger.Coherent) (options : SearchOptions) (clock : Clock) (source : σ)
    {greedy : Option Candidate} {random : Option Kept}
    (hsome : ¬(greedy = none ∧ random = none))
    (hasked : greedy = none → options.algorithm = .random)
    (hgreedy : ∀ candidate, greedy = some candidate → candidate = snapshot.greedyFound)
    (hrandom : ∀ kept, random = some kept → snapshot.Correct kept.candidate) :
    Answers source (snapshot.Finds options.algorithm)
      (snapshot.settle options clock greedy random source) := by
  unfold settle
  cases greedy with
  | some greedy =>
      obtain rfl := hgreedy greedy rfl
      cases random with
      | some kept =>
          have hkept := hrandom kept rfl
          by_cases hwins : snapshot.greedyFound.score.score < kept.candidate.score.score
          · simp only [hwins, if_true]
            exact ⟨hkept.builds, hkept.score, fun _ => hwins.le⟩
          · simp only [hwins, if_false]
            exact ⟨snapshot.builds_greedy, rfl, fun _ => le_rfl⟩
      | none =>
          by_cases hclimb : options.algorithm = .climb
          · simp only [hclimb, if_true]
            refine (climb_delivers hledger clock options.duration options.mutationMax
              source).answers ?_
            intro kept _ _ hkept
            exact ⟨hkept.1.builds, hkept.1.score, fun _ => hkept.2⟩
          · simp only [hclimb, if_false]
            exact ⟨snapshot.builds_greedy, rfl, fun _ => le_rfl⟩
  | none =>
      cases random with
      | some kept =>
          have hkept := hrandom kept rfl
          exact ⟨hkept.builds, hkept.score, fun hother => absurd (hasked rfl) hother⟩
      | none => exact absurd ⟨rfl, rfl⟩ hsome

theorem explore_answers
    (hledger : snapshot.ledger.Coherent) (options : SearchOptions) (clock : Clock) (source : σ) :
    Answers source (snapshot.Finds options.algorithm) (snapshot.explore options clock source) := by
  have hgreedy := greedyRun_eq hledger options.algorithm
  unfold explore
  rw [hgreedy]
  refine (randomRun_delivers hledger options clock source).answers ?_
  intro random later hrandom hcorrect
  have hsome := greedy_or_random hgreedy hrandom
  apply settle_answers hledger options clock later hsome ?_ ?_ hcorrect
  · simp [Algorithm.buildsGreedily_eq_false_iff]
  · simp

theorem search_answers
    (hledger : snapshot.ledger.Coherent)
    (hdistinct : (snapshot.worklist ++ snapshot.template.listings).Nodup)
    (options : SearchOptions) (clock : Clock) (source : σ) :
    Answers source (snapshot.Finds options.algorithm) (snapshot.search options clock source) := by
  have hexplore := explore_answers hledger options clock source
  unfold search
  cases hfound : snapshot.explore options clock source with
  | error failure =>
      rw [hfound] at hexplore
      exact hexplore
  | ok outcome =>
      rw [hfound] at hexplore
      have hcheck := hexplore.builds.check hledger hdistinct
      change Answers source _ (do
        (outcome.schedule.check snapshot.template).mapError SearchFailure.inconsistent
        return outcome)
      rw [hcheck]
      exact hexplore

/-- What a search answers that looks at nothing but the greedy schedule. -/
def greedyOutcome (snapshot : Snapshot) : SearchOutcome where
  schedule := snapshot.greedy
  score := snapshot.greedy.totalScore snapshot.ledger
  strategy := .heuristic
  heuristicScore := some snapshot.greedyScore
  randomScore := none
  candidates := 0

theorem search_heuristic_eq
    (hledger : snapshot.ledger.Coherent)
    (hdistinct : (snapshot.worklist ++ snapshot.template.listings).Nodup)
    (clock : Clock) (source : σ) :
    snapshot.search { algorithm := .heuristic } clock source = .ok snapshot.greedyOutcome := by
  have hcheck := snapshot.builds_greedy.check hledger hdistinct
  unfold search explore
  rw [greedyRun_eq hledger]
  change (do
    (snapshot.greedy.check snapshot.template).mapError SearchFailure.inconsistent
    return snapshot.greedyOutcome) = _
  rw [hcheck]
  rfl

/-- Also where the last check may fail, it hands out nothing but what the strategies found. -/
theorem explore_eq_ok_of_search_eq_ok
    {options : SearchOptions} {clock : Clock} {source : σ} {outcome : SearchOutcome}
    (hsearch : snapshot.search options clock source = .ok outcome) :
    snapshot.explore options clock source = .ok outcome := by
  unfold search at hsearch
  obtain ⟨found, hfound, hchecked⟩ := bind_eq_ok.1 hsearch
  obtain ⟨_, _, hsame⟩ := bind_eq_ok.1 hchecked
  obtain rfl : found = outcome := Except.ok.inj hsame
  exact hfound

theorem finds_of_search_eq_ok
    (hledger : snapshot.ledger.Coherent) {options : SearchOptions} {clock : Clock} {source : σ}
    {outcome : SearchOutcome} (hsearch : snapshot.search options clock source = .ok outcome) :
    snapshot.Finds options.algorithm outcome :=
  (explore_answers hledger options clock source).of_ok (explore_eq_ok_of_search_eq_ok hsearch)

end Snapshot

end Unconference
