import Unconference.Proofs.Search.Approximation
import Mathlib.Data.List.Chain
import Mathlib.Data.List.MinMax

/-!
# What the report of a search says

Schedules and scores travel through two loops before one of them is reported.  `Generates` and
`Climbs` list what the loops went through, candidate by candidate, and what comes out of a loop is
told by that list: the first of the best for the restarts, the last one for the climb, and their
number.  The report is then one of five forms.
-/

namespace Unconference

/-- Scoring the schedule again changes nothing and gives the score that goes with it. -/
def Candidate.Rescores (candidate : Candidate) (ledger : Ledger) : Prop :=
  ∀ validation,
    candidate.schedule.score ledger validation = .ok (candidate.schedule, candidate.score)

def Candidate.points (candidate : Candidate) : Nat := candidate.score.score

/-- The schedule that is reported, with the score that is reported. -/
def SearchOutcome.candidate (outcome : SearchOutcome) : Candidate where
  schedule := outcome.schedule
  score := outcome.score

namespace Snapshot

variable {σ : Type} [RandomSource σ]

/-- The candidates that are built at random one after the other. -/
inductive Generates (snapshot : Snapshot) : σ → List Candidate → σ → Prop
  | done (source : σ) : Generates snapshot source [] source
  | next {source later last : σ} {candidate : Candidate} {rest : List Candidate} :
      snapshot.randomCandidate source = .ok (candidate, later) →
        Generates snapshot later rest last → Generates snapshot source (candidate :: rest) last

/-- What a step of a climb goes on with. -/
def afterMutant (current mutant : Candidate) : Candidate :=
  if current.points ≤ mutant.points then mutant else current

/-- The candidates that the steps of a climb from `current` go on with. -/
inductive Climbs (snapshot : Snapshot) (most : Nat) :
    Candidate → σ → List Candidate → σ → Prop
  | done (current : Candidate) (source : σ) : Climbs snapshot most current source [] source
  | step {current mutant : Candidate} {source later last : σ} {rest : List Candidate} :
      snapshot.mutant most current.schedule source = .ok (mutant, later) →
        Climbs snapshot most (afterMutant current mutant) later rest last →
          Climbs snapshot most current source (afterMutant current mutant :: rest) last

variable {snapshot : Snapshot} {clock : Clock} {budget elapsed : Nat} {source last : σ}
  {kept : Kept}

/-! ## The restarts -/

/-- The best candidate so far is the first of the best of those built so far. -/
theorem restartsFrom_eq_ok
    {best : Candidate} {built : List Candidate} (hbest : built.argmax Candidate.points = some best)
    (hrestarts :
      snapshot.restartsFrom clock budget elapsed best built.length source = .ok (kept, last)) :
    ∃ more,
      snapshot.Generates source more last ∧
        (built ++ more).argmax Candidate.points = some kept.candidate ∧
          kept.rounds = (built ++ more).length ∧
            (clock.tick = 1 → more.length = budget - elapsed) := by
  induction htime : budget - elapsed using Nat.strong_induction_on
    generalizing elapsed best built source with
  | h time ih =>
      rw [restartsFrom] at hrestarts
      split at hrestarts
      · obtain ⟨rfl, rfl⟩ := Prod.mk.inj (Except.ok.inj hrestarts)
        refine ⟨[], .done source, by rwa [List.append_nil], by rw [List.append_nil], fun _ => ?_⟩
        rw [List.length_nil]
        omega
      · obtain ⟨⟨candidate, later⟩, hcandidate, hlater⟩ := bind_eq_ok.1 hrestarts
        have htick := clock.tick_pos
        have hless : budget - (elapsed + clock.tick) < time := by omega
        have hnext : (built ++ [candidate]).argmax Candidate.points =
            some (if best.points < candidate.points then candidate else best) := by
          rw [List.argmax_concat, hbest]
          exact (apply_ite some _ _ _).symm
        have hlength : (built ++ [candidate]).length = built.length + 1 := by simp
        obtain ⟨more, hmore, hkept, hrounds, hcount⟩ := ih _ hless hnext (hlength ▸ hlater) rfl
        rw [List.append_assoc, List.singleton_append] at hkept hrounds
        refine ⟨candidate :: more, .next hcandidate hmore, hkept, hrounds, fun hone => ?_⟩
        have hmoreLength := hcount hone
        rw [List.length_cons]
        omega

theorem restarts_eq_ok
    (hrestarts : snapshot.restarts clock budget source = .ok (kept, last)) :
    ∃ built,
      snapshot.Generates source built last ∧
        built.argmax Candidate.points = some kept.candidate ∧
          kept.rounds = built.length ∧ (clock.tick = 1 → built.length = max 1 budget) := by
  unfold restarts at hrestarts
  obtain ⟨⟨first, later⟩, hfirst, hlater⟩ := bind_eq_ok.1 hrestarts
  have hbest : [first].argmax Candidate.points = some first := List.argmax_singleton
  obtain ⟨more, hmore, hkept, hrounds, hcount⟩ := restartsFrom_eq_ok hbest hlater
  refine ⟨first :: more, .next hfirst hmore, hkept, hrounds, fun hone => ?_⟩
  have hmoreLength := hcount hone
  rw [List.length_cons]
  omega

/-! ## The climb -/

theorem climbFrom_eq_ok
    {most steps : Nat} {current : Candidate}
    (hclimb :
      snapshot.climbFrom clock budget elapsed most current steps source = .ok (kept, last)) :
    ∃ path,
      snapshot.Climbs most current source path last ∧
        (current :: path).getLast? = some kept.candidate ∧
          kept.rounds = steps + path.length ∧
            (clock.tick = 1 → path.length = budget - elapsed) := by
  induction htime : budget - elapsed using Nat.strong_induction_on
    generalizing elapsed current steps source with
  | h time ih =>
      rw [climbFrom] at hclimb
      split at hclimb
      · obtain ⟨rfl, rfl⟩ := Prod.mk.inj (Except.ok.inj hclimb)
        refine ⟨[], .done current source, rfl, rfl, fun _ => ?_⟩
        rw [List.length_nil]
        omega
      · obtain ⟨⟨mutant, later⟩, hmutant, hlater⟩ := bind_eq_ok.1 hclimb
        have htick := clock.tick_pos
        have hless : budget - (elapsed + clock.tick) < time := by omega
        obtain ⟨path, hpath, hkept, hrounds, hcount⟩ := ih _ hless hlater rfl
        refine ⟨_ :: path, .step hmutant hpath, hkept, ?_, fun hone => ?_⟩
        · rw [hrounds, List.length_cons]
          omega
        · have hpathLength := hcount hone
          rw [List.length_cons]
          omega

theorem points_le_afterMutant (current mutant : Candidate) :
    current.points ≤ (afterMutant current mutant).points := by
  unfold afterMutant
  split
  · assumption
  · exact le_rfl

/-- What every mutation keeps holds all along the climb. -/
theorem Climbs.forall_mem
    {good : Candidate → Prop} {most : Nat}
    (hmutant : ∀ (current mutant : Candidate) (source later : σ), good current →
      snapshot.mutant most current.schedule source = .ok (mutant, later) → good mutant)
    {current : Candidate} {path : List Candidate}
    (hclimbs : snapshot.Climbs most current source path last) (hcurrent : good current) :
    ∀ candidate ∈ path, good candidate := by
  induction hclimbs with
  | done => simp
  | @step current mutant source later _ _ hstep _ ih =>
      have hafter : good (afterMutant current mutant) := by
        unfold afterMutant
        split
        · exact hmutant current mutant source later hcurrent hstep
        · exact hcurrent
      exact List.forall_mem_cons.2 ⟨hafter, ih hafter⟩

theorem Climbs.isChain
    {most : Nat} {current : Candidate} {path : List Candidate}
    (hclimbs : snapshot.Climbs most current source path last) :
    (current :: path).IsChain fun earlier later => earlier.points ≤ later.points := by
  induction hclimbs with
  | done => exact List.IsChain.singleton _
  | step _ _ ih => exact List.IsChain.cons_cons (points_le_afterMutant _ _) ih

/-! ## Scores belong to their schedules -/

theorem Correct.rescores
    {candidate : Candidate} (hcorrect : snapshot.Correct candidate)
    (hledger : snapshot.ledger.Coherent) : candidate.Rescores snapshot.ledger := by
  intro validation
  rw [(hcorrect.builds.fits hledger).fresh.score hledger validation, ← hcorrect.score]

theorem Generates.correct
    {built : List Candidate} (hgenerates : snapshot.Generates source built last)
    (hledger : snapshot.ledger.Coherent) : ∀ candidate ∈ built, snapshot.Correct candidate := by
  induction hgenerates with
  | done => simp
  | @next source _ _ candidate rest hcandidate _ ih =>
      have hdelivers := (randomCandidate_delivers hledger source).of_ok hcandidate
      exact List.forall_mem_cons.2 ⟨hdelivers.1, ih⟩

theorem Climbs.correct
    {most : Nat} {current : Candidate} {path : List Candidate}
    (hclimbs : snapshot.Climbs most current source path last)
    (hledger : snapshot.ledger.Coherent) (hcurrent : snapshot.Correct current) :
    ∀ candidate ∈ path, snapshot.Correct candidate := by
  refine hclimbs.forall_mem ?_ hcurrent
  intro current mutant source later hcorrect hmutant
  exact ((mutant_delivers hledger most hcorrect.builds source).of_ok hmutant).1

theorem correct_of_search_eq_ok
    (hledger : snapshot.ledger.Coherent) {options : SearchOptions} {outcome : SearchOutcome}
    (hsearch : snapshot.search options clock source = .ok outcome) :
    snapshot.Correct outcome.candidate :=
  have hfinds := finds_of_search_eq_ok hledger hsearch
  ⟨hfinds.builds, hfinds.score⟩

/-! ## The five forms of a report -/

inductive Reports (snapshot : Snapshot) (options : SearchOptions) (clock : Clock) (source : σ) :
    SearchOutcome → Prop
  | heuristic :
      options.algorithm = .heuristic →
        Reports snapshot options clock source snapshot.greedyOutcome
  | random {random : Kept} {last : σ} :
      options.algorithm = .random →
        snapshot.restarts clock options.duration source = .ok (random, last) →
          Reports snapshot options clock source
            { schedule := random.candidate.schedule, score := random.candidate.score
              strategy := .random, heuristicScore := none
              randomScore := some random.candidate.points, candidates := random.rounds }
  | randomWins {random : Kept} {last : σ} :
      options.algorithm = .combined →
        snapshot.restarts clock options.duration source = .ok (random, last) →
          snapshot.greedyFound.points < random.candidate.points →
            Reports snapshot options clock source
              { schedule := random.candidate.schedule, score := random.candidate.score
                strategy := .random, heuristicScore := some snapshot.greedyFound.points
                randomScore := some random.candidate.points, candidates := random.rounds }
  | greedyWins {random : Kept} {last : σ} :
      options.algorithm = .combined →
        snapshot.restarts clock options.duration source = .ok (random, last) →
          random.candidate.points ≤ snapshot.greedyFound.points →
            Reports snapshot options clock source
              { schedule := snapshot.greedy, score := snapshot.greedyFound.score
                strategy := .heuristic, heuristicScore := some snapshot.greedyFound.points
                randomScore := some random.candidate.points, candidates := random.rounds }
  | climb {climbed : Kept} {last : σ} :
      options.algorithm = .climb →
        snapshot.climbFrom clock options.duration clock.tick options.mutationMax
            snapshot.greedyFound 0 source = .ok (climbed, last) →
          Reports snapshot options clock source
            { schedule := climbed.candidate.schedule, score := climbed.candidate.score
              strategy := .climb, heuristicScore := some snapshot.greedyFound.points
              randomScore := none, candidates := climbed.rounds }

theorem reports_of_settle_eq_ok
    (hledger : snapshot.ledger.Coherent) {options : SearchOptions} {outcome : SearchOutcome}
    {greedy : Option Candidate} {random : Option Kept}
    (hgreedy : snapshot.greedyRun options.algorithm = .ok greedy)
    (hrandom : snapshot.randomRun options clock source = .ok (random, last))
    (hsettle : snapshot.settle options clock greedy random last = .ok outcome) :
    snapshot.Reports options clock source outcome := by
  have hsome := greedy_or_random hgreedy hrandom
  obtain ⟨hbuilds, hcandidate⟩ := greedyRun_eq_ok hgreedy
  obtain ⟨hrestarts, hkept, hsource⟩ := randomRun_eq_ok hrandom
  unfold settle at hsettle
  cases greedy with
  | some greedy =>
      obtain rfl : snapshot.greedyFound = greedy :=
        Except.ok.inj ((greedyCandidate_eq hledger).symm.trans (hcandidate greedy rfl))
      cases random with
      | some kept =>
          have halgorithm := Algorithm.eq_combined_iff.2 ⟨hbuilds.symm, hrestarts.symm⟩
          by_cases hwins : snapshot.greedyFound.score.score < kept.candidate.score.score
          · simp only [hwins, if_true] at hsettle
            obtain rfl := Except.ok.inj hsettle
            exact .randomWins halgorithm (hkept kept rfl) hwins
          · simp only [hwins, if_false] at hsettle
            obtain rfl := Except.ok.inj hsettle
            exact .greedyWins halgorithm (hkept kept rfl) (Nat.le_of_not_lt hwins)
      | none =>
          obtain rfl := hsource rfl
          by_cases hclimb : options.algorithm = .climb
          · simp only [hclimb, if_true] at hsettle
            obtain ⟨⟨climbed, last⟩, hclimbed, hreport⟩ := bind_eq_ok.1 hsettle
            obtain rfl := Except.ok.inj hreport
            unfold Snapshot.climb at hclimbed
            simp only [greedyFound, snapshot.builds_greedy.scored hledger] at hclimbed
            exact .climb hclimb hclimbed
          · simp only [hclimb, if_false] at hsettle
            obtain rfl := Except.ok.inj hsettle
            have halgorithm := Algorithm.restarts_eq_false_iff.1 hrestarts.symm
            exact .heuristic (halgorithm.resolve_right hclimb)
  | none =>
      cases random with
      | some kept =>
          have halgorithm := Algorithm.buildsGreedily_eq_false_iff.1 hbuilds.symm
          obtain rfl := Except.ok.inj hsettle
          exact .random halgorithm (hkept kept rfl)
      | none => exact absurd ⟨rfl, rfl⟩ hsome

theorem reports_of_explore_eq_ok
    (hledger : snapshot.ledger.Coherent) {options : SearchOptions} {outcome : SearchOutcome}
    (hexplore : snapshot.explore options clock source = .ok outcome) :
    snapshot.Reports options clock source outcome := by
  unfold explore at hexplore
  obtain ⟨greedy, hgreedy, hrest⟩ := bind_eq_ok.1 hexplore
  obtain ⟨⟨random, last⟩, hrandom, hsettle⟩ := bind_eq_ok.1 hrest
  exact reports_of_settle_eq_ok hledger hgreedy hrandom hsettle

/-! ## What the forms have in common -/

variable {options : SearchOptions} {outcome : SearchOutcome}

theorem Reports.eq_of_heuristicScore
    (hreports : snapshot.Reports options clock source outcome) {points : Nat}
    (hpoints : outcome.heuristicScore = some points) : points = snapshot.greedyFound.points := by
  cases hreports with
  | random => cases hpoints
  | heuristic | randomWins | greedyWins | climb => exact (Option.some.inj hpoints).symm

theorem Reports.heuristicScore_eq_none_iff
    (hreports : snapshot.Reports options clock source outcome) :
    outcome.heuristicScore = none ↔ options.algorithm = .random := by
  cases hreports with
  | random halgorithm => simp [halgorithm]
  | heuristic halgorithm => simp [greedyOutcome, halgorithm]
  | randomWins halgorithm | greedyWins halgorithm | climb halgorithm => simp [halgorithm]

theorem Reports.randomScore_eq_none_iff
    (hreports : snapshot.Reports options clock source outcome) :
    outcome.randomScore = none ↔
      options.algorithm = .heuristic ∨ options.algorithm = .climb := by
  cases hreports with
  | heuristic halgorithm => simp [greedyOutcome, halgorithm]
  | random halgorithm | randomWins halgorithm | greedyWins halgorithm | climb halgorithm =>
      simp [halgorithm]

theorem Reports.eq_greedyOutcome
    (hreports : snapshot.Reports options clock source outcome)
    (hheuristic : options.algorithm = .heuristic) : outcome = snapshot.greedyOutcome := by
  cases hreports with
  | heuristic => rfl
  | random halgorithm | randomWins halgorithm | greedyWins halgorithm | climb halgorithm =>
      cases hheuristic.symm.trans halgorithm

theorem Reports.strategy_of_random
    (hreports : snapshot.Reports options clock source outcome)
    (hrandom : options.algorithm = .random) : outcome.strategy = .random := by
  cases hreports with
  | random | randomWins => rfl
  | heuristic halgorithm | greedyWins halgorithm | climb halgorithm =>
      cases hrandom.symm.trans halgorithm

theorem Reports.candidate_eq_greedyFound
    (hreports : snapshot.Reports options clock source outcome)
    (hstrategy : outcome.strategy = .heuristic) : outcome.candidate = snapshot.greedyFound := by
  cases hreports with
  | heuristic | greedyWins => rfl
  | random | randomWins | climb => cases hstrategy

theorem Reports.restarts_of_randomScore
    (hreports : snapshot.Reports options clock source outcome) {points : Nat}
    (hpoints : outcome.randomScore = some points) :
    ∃ kept last,
      snapshot.restarts clock options.duration source = .ok (kept, last) ∧
        kept.candidate.points = points ∧ outcome.candidates = kept.rounds ∧
          (outcome.strategy = .random → outcome.candidate = kept.candidate) := by
  cases hreports with
  | heuristic | climb => cases hpoints
  | random _ hrandom | randomWins _ hrandom =>
      exact ⟨_, _, hrandom, Option.some.inj hpoints, rfl, fun _ => rfl⟩
  | greedyWins _ hrandom =>
      exact ⟨_, _, hrandom, Option.some.inj hpoints, rfl, fun hstrategy => by cases hstrategy⟩

/-- Of the two schedules the better one is taken, and the greedy one if they are as good. -/
theorem Reports.of_combined
    (hreports : snapshot.Reports options clock source outcome)
    (hcombined : options.algorithm = .combined) :
    ∃ greedyPoints randomPoints,
      outcome.heuristicScore = some greedyPoints ∧ outcome.randomScore = some randomPoints ∧
        outcome.score.score = max greedyPoints randomPoints ∧
          outcome.strategy = if greedyPoints < randomPoints then .random else .heuristic := by
  cases hreports with
  | heuristic halgorithm | random halgorithm | climb halgorithm =>
      cases hcombined.symm.trans halgorithm
  | randomWins _ _ hwins =>
      exact ⟨_, _, rfl, rfl, (max_eq_right hwins.le).symm, (if_pos hwins).symm⟩
  | greedyWins _ _ hwins =>
      exact ⟨_, _, rfl, rfl, (max_eq_left hwins).symm, (if_neg hwins.not_gt).symm⟩

theorem Reports.climbFrom_of_climb
    (hreports : snapshot.Reports options clock source outcome)
    (hclimb : options.algorithm = .climb) :
    ∃ climbed last,
      snapshot.climbFrom clock options.duration clock.tick options.mutationMax
          snapshot.greedyFound 0 source = .ok (climbed, last) ∧
        outcome.strategy = .climb ∧ outcome.candidate = climbed.candidate ∧
          outcome.candidates = climbed.rounds ∧
            outcome.heuristicScore = some snapshot.greedyFound.points := by
  cases hreports with
  | climb _ hclimbed => exact ⟨_, _, hclimbed, rfl, rfl, rfl, rfl⟩
  | heuristic halgorithm | random halgorithm | randomWins halgorithm | greedyWins halgorithm =>
      cases hclimb.symm.trans halgorithm

/-- The score reported is that of the schedule reported, and so are the scores of the strategies.
What the restarts keep is the first of the best of all they built, the combined strategies take the
better of the two, and a climb never goes down.  The schedule is the one of the strategy named. -/
theorem report_is_truthful_and_picks_the_best
    {snapshot : Snapshot} (hledger : snapshot.ledger.Reachable) {σ : Type} [RandomSource σ]
    {options : SearchOptions} {clock : Clock} {source : σ} {outcome : SearchOutcome}
    (hsearch : snapshot.search options clock source = .ok outcome) :
    outcome.candidate.Rescores snapshot.ledger ∧
    -- the scores of the strategies that were run
    (outcome.heuristicScore = none ↔ options.algorithm = .random) ∧
    (outcome.randomScore = none ↔
      options.algorithm = .heuristic ∨ options.algorithm = .climb) ∧
    (∀ points, outcome.heuristicScore = some points →
      snapshot.greedyFound.schedule = snapshot.greedy ∧
        snapshot.greedyFound.Rescores snapshot.ledger ∧ points = snapshot.greedyFound.points) ∧
    (∀ points, outcome.randomScore = some points →
      ∃ built kept last,
        snapshot.restarts clock options.duration source = .ok (kept, last) ∧
        snapshot.Generates source built last ∧
        (∀ candidate ∈ built,
          candidate.Rescores snapshot.ledger ∧ candidate.points ≤ points) ∧
        built.argmax Candidate.points = some kept.candidate ∧
        kept.candidate.points = points ∧
        (outcome.strategy = .random → outcome.candidate = kept.candidate) ∧
        outcome.candidates = built.length ∧
        (clock.tick = 1 → built.length = max 1 options.duration)) ∧
    -- the schedule that is handed out
    (options.algorithm = .heuristic → outcome = snapshot.greedyOutcome) ∧
    (options.algorithm = .random → outcome.strategy = .random) ∧
    (outcome.strategy = .heuristic → outcome.candidate = snapshot.greedyFound) ∧
    -- how the strategies are combined
    (options.algorithm = .combined →
      ∃ greedyPoints randomPoints,
        outcome.heuristicScore = some greedyPoints ∧ outcome.randomScore = some randomPoints ∧
        outcome.score.score = max greedyPoints randomPoints ∧
        outcome.strategy = if greedyPoints < randomPoints then .random else .heuristic) ∧
    (options.algorithm = .climb →
      outcome.strategy = .climb ∧ ∃ path last,
        snapshot.Climbs options.mutationMax snapshot.greedyFound source path last ∧
        (∀ candidate ∈ path, candidate.Rescores snapshot.ledger) ∧
        ((snapshot.greedyFound :: path).IsChain fun earlier later =>
          earlier.points ≤ later.points) ∧
        (snapshot.greedyFound :: path).getLast? = some outcome.candidate ∧
        (∃ points, outcome.heuristicScore = some points ∧ points ≤ outcome.score.score) ∧
        outcome.candidates = path.length ∧
        (clock.tick = 1 → path.length = options.duration - 1)) := by
  have hcoherent := hledger.coherent
  have hreports := reports_of_explore_eq_ok hcoherent (explore_eq_ok_of_search_eq_ok hsearch)
  have hgreedy := snapshot.correct_greedyFound
  refine ⟨(correct_of_search_eq_ok hcoherent hsearch).rescores hcoherent,
    hreports.heuristicScore_eq_none_iff, hreports.randomScore_eq_none_iff, ?_, ?_,
    hreports.eq_greedyOutcome, hreports.strategy_of_random, hreports.candidate_eq_greedyFound,
    hreports.of_combined, ?_⟩
  · intro points hpoints
    exact ⟨rfl, hgreedy.rescores hcoherent, hreports.eq_of_heuristicScore hpoints⟩
  · intro points hpoints
    obtain ⟨kept, last, hrestarts, hkept, hcandidates, hwins⟩ :=
      hreports.restarts_of_randomScore hpoints
    obtain ⟨built, hbuilt, hbest, hrounds, hcount⟩ := restarts_eq_ok hrestarts
    refine ⟨built, kept, last, hrestarts, hbuilt, fun candidate hmem => ⟨?_, ?_⟩, hbest, hkept,
      hwins, hcandidates.trans hrounds, hcount⟩
    · exact (hbuilt.correct hcoherent candidate hmem).rescores hcoherent
    · exact hkept ▸ List.le_of_mem_argmax hmem hbest
  · intro hclimb
    obtain ⟨climbed, last, hclimbed, hstrategy, hcandidate, hcandidates, hpoints⟩ :=
      hreports.climbFrom_of_climb hclimb
    obtain ⟨path, hpath, hlast, hrounds, hcount⟩ := climbFrom_eq_ok hclimbed
    have hraised :=
      (finds_of_search_eq_ok hcoherent hsearch).greedy (by rw [hclimb]; simp)
    refine ⟨hstrategy, path, last, hpath, fun candidate hmem => ?_, hpath.isChain,
      hcandidate ▸ hlast, ⟨_, hpoints, hraised⟩, ?_, fun hone => (hcount hone).trans (by rw [hone])⟩
    · exact (hpath.correct hcoherent hgreedy candidate hmem).rescores hcoherent
    · rw [hcandidates, hrounds, Nat.zero_add]

/-- Three schedules are built at random beside the greedy one. -/
theorem report_is_truthful_about_contested :
    contested.ledger.Reachable ∧
      ∃ outcome,
        contested.search { algorithm := .combined, duration := 3 } {}
            (⟨[3, 1, 4]⟩ : WordList) = .ok outcome ∧
          outcome.candidate.Rescores contestedLedger ∧ outcome.candidates = 3 ∧
            outcome.heuristicScore = some 50 ∧ 50 ≤ outcome.score.score := by
  have hledger : contested.ledger.Reachable := contestedLedger_reachable
  have hanswers := search_answers hledger.coherent (by decide)
    { algorithm := .combined, duration := 3 } {} (⟨[3, 1, 4]⟩ : WordList)
  obtain ⟨outcome, hsearch⟩ := hanswers.exists_ok (WordList.drawsReturn _)
  obtain ⟨hrescores, _, _, hheuristic, hrandom, _, _, _, hcombined, _⟩ :=
    report_is_truthful_and_picks_the_best hledger hsearch
  obtain ⟨greedyPoints, randomPoints, hgreedy, hbest, hmax, _⟩ := hcombined rfl
  obtain ⟨built, _, _, _, _, _, _, _, _, hcandidates, hcount⟩ := hrandom randomPoints hbest
  have horder : contested.byDemand = [⟨0⟩, ⟨1⟩] := List.mergeSort_of_pairwise (by decide)
  have hfifty : contested.greedyFound.points = 50 := by
    unfold greedyFound greedy
    rw [horder]
    decide
  have hpoints : greedyPoints = 50 := (hheuristic greedyPoints hgreedy).2.2.trans hfifty
  refine ⟨hledger, outcome, hsearch, hrescores, ?_, hpoints ▸ hgreedy, ?_⟩
  · rw [hcandidates, hcount rfl]
    rfl
  · rw [hmax, hpoints]
    exact le_max_left _ _

end Snapshot

end Unconference
