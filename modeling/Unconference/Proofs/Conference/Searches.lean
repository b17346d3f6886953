import Unconference.Proofs.Conference.Locks

/-!
# Searches on a live conference

A search whose draws return has an answer, and its schedule keeps all the promises that the last
check and the commit look at.  This needs a prior schedule that lists nothing twice, and every
committed schedule is one, since it is the answer to an earlier search.  Between the snapshot and
the commit only the locks can come in the way.
-/

namespace Unconference

open Conference

/-- A schedule that has the slots and the locks of the snapshot, lists nothing twice, lists in the
locked slots what the prior schedule does, and elsewhere only what the search had to place and was
permitted to place there. -/
structure Snapshot.Sound (snapshot : Snapshot) (schedule : Schedule) : Prop where
  size : schedule.size = snapshot.slotCount
  locked : schedule.locked = snapshot.locked
  once : schedule.listings.Nodup
  kept : ∀ index, snapshot.locked.contains index = true →
    listedAt (some schedule) index = listedAt snapshot.prior index
  permitted : ∀ index slot, snapshot.locked.contains index = false →
    schedule.slot? index = some slot → ∀ discussion ∈ slot.discussions,
      discussion ∈ snapshot.worklist ∧ snapshot.ledger.isSlotPermitted discussion index = true

namespace Snapshot

variable {snapshot : Snapshot} {σ : Type} [RandomSource σ]

theorem Builds.sound
    {schedule : Schedule} (hbuilds : snapshot.Builds schedule)
    (hledger : snapshot.ledger.Coherent)
    (hdistinct : (snapshot.worklist ++ snapshot.template.listings).Nodup)
    (hprior : ∀ earlier, snapshot.prior = some earlier → earlier.size ≤ snapshot.slotCount) :
    snapshot.Sound schedule := by
  have hfits := hbuilds.fits hledger
  constructor
  · exact hfits.size
  · exact hfits.locked
  · exact hbuilds.nodup hdistinct
  · exact fun _ hlocked => hfits.listedAt_eq hprior hlocked
  · exact hfits.permitted

/-- What a search answers: a sound schedule, or that a draw did not return. -/
theorem search_sound
    (hledger : snapshot.ledger.Coherent) (hworklist : snapshot.WorklistTaken)
    (honce : ListsOnce snapshot.prior)
    (hprior : ∀ earlier, snapshot.prior = some earlier → earlier.size ≤ snapshot.slotCount)
    (options : SearchOptions) (clock : Clock) (source : σ) :
    Answers source (fun outcome => snapshot.Sound outcome.schedule)
      (snapshot.search options clock source) := by
  have hdistinct := nodup_worklist_append_template hworklist honce
  refine (search_answers hledger hdistinct options clock source).imp ?_
  intro outcome hfinds
  exact hfinds.builds.sound hledger hdistinct hprior

end Snapshot

namespace Live

variable {live : Live} {snapshot : Snapshot} {σ : Type} [RandomSource σ]
  {options : SearchOptions} {clock : Clock} {source : σ} {outcome : SearchOutcome}

theorem Good.search_sound
    (hgood : live.Good) (hmem : snapshot ∈ live.inFlight) (options : SearchOptions)
    (clock : Clock) (source : σ) :
    Answers source (fun outcome => snapshot.Sound outcome.schedule)
      (snapshot.search options clock source) := by
  have hcurrent := hgood.current snapshot hmem
  apply Snapshot.search_sound hcurrent.ledger.coherent hcurrent.worklist
  · rw [hcurrent.prior]
    exact hgood.once
  · intro earlier hearlier
    rw [hcurrent.prior] at hearlier
    rw [hgood.size earlier hearlier, hcurrent.slotCount]

/-- Only a slot locked since the snapshot, or a calendar that could not show any schedule, keeps the
outcome of a search from being committed. -/
theorem Good.commit_refused
    (hgood : live.Good) (hmem : snapshot ∈ live.inFlight)
    (hsearch : snapshot.search options clock source = .ok outcome) {refusal : Refusal}
    {after : Conference}
    (hcommit : live.conference.commit outcome.schedule = (.error refusal, after)) :
    (∃ index, refusal = .inconsistent (.lockedSlotChanged index) ∧
        live.conference.locked.contains index = true ∧
          snapshot.locked.contains index = false) ∨
      refusal = .inconsistent .catchAllLocation ∧
        live.conference.timetable.hasCatchAll = false := by
  obtain ⟨_, ⟨index, hchanged, rfl⟩ | ⟨cause, hplace, rfl⟩⟩ := Conference.commit_eq_error hcommit
  · obtain ⟨hlocked, hopen, _⟩ := lockedSinceSnapshot_eq_some hchanged
    have hfits := (hgood.builds hmem hsearch).fits (hgood.current snapshot hmem).ledger.coherent
    rw [hfits.isLocked] at hopen
    exact .inl ⟨index, rfl, hlocked, hopen⟩
  · have hsize := hgood.size_outcome hmem hsearch
    obtain ⟨rfl, hcatchAll⟩ := Timetable.catchAllLocation_of_place_eq_error hsize hplace
    exact .inr ⟨rfl, hcatchAll⟩

/-- A search never trips over its own invariants, neither on a snapshot made of any prior schedule
that lists nothing twice nor on one that a live conference hands out. -/
theorem searches_never_trip :
    (∀ {ledger : Ledger} {locked : SlotSet} {slotCount : Nat} {prior : Option Schedule}
        {validation : Validation} {snapshot : Snapshot},
      ledger.Reachable →
      (∀ schedule, prior = some schedule →
        schedule.checkUnique = .ok () ∧ schedule.size ≤ slotCount) →
      Snapshot.take ledger locked slotCount prior validation = .ok snapshot →
      ∀ {σ : Type} [RandomSource σ] (options : SearchOptions) (clock : Clock) (source : σ),
        (DrawsReturn source → ∃ outcome, snapshot.search options clock source = .ok outcome) ∧
        (∀ outcome, snapshot.search options clock source = .ok outcome →
          snapshot.Sound outcome.schedule) ∧
        ∀ failure, snapshot.search options clock source = .error failure →
          failure = .drawsExhausted ∧ ¬ DrawsReturn source) ∧
    ∀ {live : Live}, live.Reachable →
      (∀ schedule, live.conference.schedule = some schedule → schedule.listings.Nodup) ∧
      ∀ snapshot ∈ live.inFlight,
        ∀ {σ : Type} [RandomSource σ] (options : SearchOptions) (clock : Clock) (source : σ),
          (DrawsReturn source → ∃ outcome, snapshot.search options clock source = .ok outcome) ∧
          (∀ failure, snapshot.search options clock source = .error failure →
            failure = .drawsExhausted ∧ ¬ DrawsReturn source) ∧
          ∀ outcome refusal after, snapshot.search options clock source = .ok outcome →
            live.conference.commit outcome.schedule = (.error refusal, after) →
              (∃ index, refusal = .inconsistent (.lockedSlotChanged index) ∧
                live.conference.locked.contains index = true ∧
                  snapshot.locked.contains index = false) ∨
              refusal = .inconsistent .catchAllLocation ∧
                live.conference.timetable.hasCatchAll = false := by
  constructor
  · intro ledger locked slotCount prior validation snapshot hledger hprior htake σ _ options clock
      source
    have hworklist := Snapshot.worklistTaken_of_take htake
    obtain rfl := Snapshot.take_eq_ok htake
    have honce : ListsOnce prior := fun schedule hschedule =>
      (Schedule.checkUnique_eq_ok_iff schedule).1 (hprior schedule hschedule).1
    have hsize : ∀ earlier, prior = some earlier → earlier.size ≤ slotCount :=
      fun earlier hearlier => (hprior earlier hearlier).2
    have hanswers := Snapshot.search_sound hledger.coherent hworklist honce hsize options clock
      source
    exact ⟨hanswers.exists_ok, fun _ => hanswers.of_ok, fun _ => hanswers.of_error⟩
  · intro live hreach
    have hgood := hreach.good
    refine ⟨hgood.once, ?_⟩
    intro snapshot hmem σ _ options clock source
    have hanswers := hgood.search_sound hmem options clock source
    refine ⟨hanswers.exists_ok, fun _ => hanswers.of_error, ?_⟩
    intro outcome refusal after hsearch hcommit
    exact hgood.commit_refused hmem hsearch hcommit

/-- The second slot was empty when it was locked, and the search has put something there. -/
theorem searches_never_trip_over_second_talk :
    secondTalk.ledger.Reachable ∧ oneTalkOutcome.schedule.checkUnique = .ok () ∧
      Snapshot.take secondTalk.ledger ∅ 2 (some oneTalkOutcome.schedule) .production =
        .ok secondTalkSnapshot ∧
      (∃ outcome,
        secondTalkSnapshot.search { algorithm := .climb, mutationMax := 0 } {}
            (⟨[3, 1, 4]⟩ : WordList) = .ok outcome ∧
          secondTalkSnapshot.Sound outcome.schedule) ∧
      (lockedMeanwhile 1).Reachable ∧
      ∃ index after,
        (lockedMeanwhile 1).conference.commit secondTalkOutcome.schedule =
            (.error (.inconsistent (.lockedSlotChanged index)), after) ∧
          (lockedMeanwhile 1).conference.locked.contains index = true ∧
            secondTalkSnapshot.locked.contains index = false := by
  have hreach := lockedMeanwhile_reachable 1
  have hledger : secondTalk.ledger.Reachable := hreach.good.ledger
  have hunique : oneTalkOutcome.schedule.checkUnique = .ok () := by decide
  have htake : Snapshot.take secondTalk.ledger ∅ 2 (some oneTalkOutcome.schedule) .production =
      .ok secondTalkSnapshot := by
    decide
  have hprior : ∀ schedule, some oneTalkOutcome.schedule = some schedule →
      schedule.checkUnique = .ok () ∧ schedule.size ≤ 2 := by
    rintro _ ⟨⟩
    exact ⟨hunique, by decide⟩
  obtain ⟨hsnapshots, hruns⟩ := searches_never_trip
  refine ⟨hledger, hunique, htake, ?_, hreach, ?_⟩
  · obtain ⟨hanswer, hsound, _⟩ := hsnapshots hledger hprior htake
      { algorithm := .climb, mutationMax := 0 } {} (⟨[3, 1, 4]⟩ : WordList)
    obtain ⟨outcome, hsearch⟩ := hanswer (WordList.drawsReturn _)
    exact ⟨outcome, hsearch, hsound outcome hsearch⟩
  · have hmem : secondTalkSnapshot ∈ (lockedMeanwhile 1).inFlight := List.mem_cons_self
    have hcommit : (lockedMeanwhile 1).conference.commit secondTalkOutcome.schedule =
        (.error (.inconsistent (.lockedSlotChanged 1)),
          ((lockedMeanwhile 1).conference.commit secondTalkOutcome.schedule).2) :=
      Prod.ext (by decide) rfl
    obtain ⟨_, _, hrefused⟩ := (hruns hreach).2 _ hmem { algorithm := .heuristic } {}
      (⟨[]⟩ : WordList)
    rcases hrefused _ _ _ search_secondTalkSnapshot hcommit with
      ⟨index, hindex, hlocked, hopen⟩ | ⟨hother, _⟩
    · rw [hindex] at hcommit
      exact ⟨index, _, hcommit, hlocked, hopen⟩
    · cases hother

end Live

end Unconference
