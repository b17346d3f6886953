import Unconference.Proofs.Conference.Alignment
import Unconference.Proofs.Conference.Refusals
import Unconference.Proofs.Conference.Searches
import Unconference.Proofs.Timetable.Display

/-!
# What a live conference shows

The calendar is filled in by the commit and by nothing else, from the ledger of that moment.  So as
long as nothing counts as changed since the committed schedule, the calendar shows that schedule as
the ledger of now would have it shown.  Discussions are never removed, so the ledger knows whatever
a snapshot knew, and with it every discussion that has ever been scheduled.
-/

namespace Unconference

open Conference

namespace Conference

variable {conference after : Conference}

theorem discussionIds_mutated (conference : Conference) (mutation : Mutation) :
    conference.ledger.discussionIds ⊆ (conference.mutated mutation).ledger.discussionIds := by
  have hanswered (request : Ledger.Request) : conference.ledger.discussionIds ⊆
      (conference.ledger.answer request).2.discussionIds := by
    rw [(conference.ledger.answered request).discussionIds_eq]
    exact List.subset_append_left _ _
  rw [ledger_mutated]
  cases mutation with
  | addUser name => exact hanswered (.addUser name)
  | addDiscussion owner title isPublic => exact hanswered (.addDiscussion owner title isPublic _)
  | setInterest user discussion value => exact hanswered (.setInterest user discussion value)
  | setPublic discussion isPublic => exact hanswered (.setPublic discussion isPublic)
  | setPossibleSlots discussion possibleSlots =>
      exact hanswered (.setPossibleSlots discussion possibleSlots)
  | setLockedSlots locked => exact fun _ hmem => hmem

/-- An operation changes nothing at all, or the committed schedule counts as out of date. -/
theorem mutated_eq_or_changed (conference : Conference) (mutation : Mutation) :
    conference.mutated mutation = conference ∨
      (conference.mutated mutation).state.changedSinceSchedule = true := by
  rw [← attempt_snd]
  rcases conference.settles_attempt mutation with ⟨refusal, hrefused⟩ | ⟨_, _, hstate⟩
  · exact .inl (congrArg Prod.snd hrefused)
  · rw [hstate]
    exact .inr rfl

theorem shows_of_commit_eq_ok
    {schedule : Schedule} (hcommit : conference.commit schedule = (.ok (), after)) :
    after.timetable.Shows after.ledger schedule := by
  have hplace := place_of_commit_eq_ok hcommit
  obtain ⟨_, rfl⟩ := commit_eq_ok hcommit
  have houtline : ((conference.timetable.place schedule conference.ledger).2.withLocks
      conference.locked).outline = conference.timetable.outline := by
    rw [Timetable.outline_withLocks, Timetable.outline_place]
  unfold Timetable.Shows
  rw [Timetable.discussions_withLocks, (Timetable.discussions_place hplace).2,
    Timetable.shownIn_congr (congrArg Prod.snd houtline)]

end Conference

namespace Live

structure Displays (live : Live) : Prop where
  known : ∀ schedule, live.conference.schedule = some schedule →
    schedule.listings ⊆ live.conference.ledger.discussionIds
  recalled : ∀ snapshot ∈ live.inFlight,
    snapshot.ledger.discussionIds ⊆ live.conference.ledger.discussionIds
  shown : live.conference.state.changedSinceSchedule = false →
    ∀ schedule, live.conference.schedule = some schedule →
      live.conference.timetable.Shows live.conference.ledger schedule

variable {live later : Live} {snapshot : Snapshot}

theorem displays_new (timetable : Timetable) : Displays { conference := .new timetable } := by
  constructor
  · intro schedule hschedule
    cases hschedule
  · intro snapshot hmem
    cases hmem
  · intro _ schedule hschedule
    cases hschedule

theorem Displays.afterMutate (hdisplays : live.Displays) (mutation : Mutation) :
    Displays { live with conference := live.conference.mutated mutation } := by
  have hkept := live.conference.discussionIds_mutated mutation
  have hschedule := live.conference.schedule_mutated mutation
  constructor
  · rw [hschedule]
    exact fun schedule hcommitted => List.Subset.trans (hdisplays.known schedule hcommitted) hkept
  · exact fun snapshot hmem => List.Subset.trans (hdisplays.recalled snapshot hmem) hkept
  · intro hunchanged
    rcases live.conference.mutated_eq_or_changed mutation with hsame | hchanged
    · rw [hsame] at hunchanged ⊢
      exact hdisplays.shown hunchanged
    · rw [hchanged] at hunchanged
      cases hunchanged

theorem Displays.afterStart
    (hdisplays : live.Displays) {validation : Validation} {after : Conference}
    (hstart : live.conference.startSearch validation = (.ok snapshot, after)) :
    Displays { conference := after, inFlight := snapshot :: live.inFlight } := by
  obtain ⟨_, htake, rfl⟩ := startSearch_eq_ok hstart
  have hsnapshot := Snapshot.take_eq_ok htake
  constructor
  · exact hdisplays.known
  · intro other hmem
    rcases List.mem_cons.1 hmem with rfl | hearlier
    · rw [hsnapshot]
      exact fun _ hdiscussion => hdiscussion
    · exact hdisplays.recalled other hearlier
  · exact hdisplays.shown

theorem Displays.afterAbort
    (hdisplays : live.Displays) {inFlight : List Snapshot} (hfewer : inFlight ⊆ live.inFlight) :
    Displays { conference := live.conference.abortSearch, inFlight } := by
  constructor
  · exact hdisplays.known
  · exact fun other hmem => hdisplays.recalled other (hfewer hmem)
  · exact hdisplays.shown

section

variable {σ : Type} [RandomSource σ] {options : SearchOptions} {clock : Clock} {source : σ}
  {outcome : SearchOutcome}

/-- What a search has scheduled was on its work list or in the schedule before. -/
theorem Displays.known_outcome
    (hdisplays : live.Displays) (hgood : live.Good) (hmem : snapshot ∈ live.inFlight)
    (hsearch : snapshot.search options clock source = .ok outcome) :
    outcome.schedule.listings ⊆ live.conference.ledger.discussionIds := by
  have hcurrent := hgood.current snapshot hmem
  have hsound := (hgood.search_sound hmem options clock source).of_ok hsearch
  intro discussion hlisted
  obtain ⟨index, slot, hslot, hdiscussion⟩ := Schedule.mem_listings_iff.1 hlisted
  cases hlocked : snapshot.locked.contains index with
  | false =>
      have hworklist := (hsound.permitted index slot hlocked hslot discussion hdiscussion).1
      rw [hcurrent.worklist] at hworklist
      exact hdisplays.recalled snapshot hmem (List.mem_of_mem_filter hworklist)
  | true =>
      have hkept := hsound.kept index hlocked
      have hat : discussion ∈ listedAt (some outcome.schedule) index :=
        Schedule.mem_discussionsAt_iff.2 ⟨slot, hslot, hdiscussion⟩
      rw [hkept, hcurrent.prior] at hat
      cases hprior : live.conference.schedule with
      | none => simp [listedAt, hprior] at hat
      | some earlier =>
          rw [hprior] at hat
          exact hdisplays.known earlier hprior
            (Schedule.mem_listings_iff.2 ⟨index, Schedule.mem_discussionsAt_iff.1 hat⟩)

theorem Displays.afterCommit
    (hdisplays : live.Displays) (hgood : live.Good) (hmem : snapshot ∈ live.inFlight)
    (hsearch : snapshot.search options clock source = .ok outcome) :
    Displays {
      conference := (live.conference.commit outcome.schedule).2
      inFlight := live.inFlight.erase snapshot } := by
  cases hcommit : live.conference.commit outcome.schedule with
  | mk answer after =>
      cases answer with
      | error refusal =>
          obtain ⟨rfl, _⟩ := commit_eq_error hcommit
          exact hdisplays.afterAbort List.erase_subset
      | ok =>
          have hshows := shows_of_commit_eq_ok hcommit
          obtain ⟨_, rfl⟩ := commit_eq_ok hcommit
          constructor
          · intro schedule hschedule
            obtain rfl := Option.some.inj hschedule
            exact hdisplays.known_outcome hgood hmem hsearch
          · exact fun other hother => hdisplays.recalled other (List.erase_subset hother)
          · intro _ schedule hschedule
            obtain rfl := Option.some.inj hschedule
            exact hshows

end

theorem Reachable.displays (hreach : live.Reachable) : live.Displays := by
  induction hreach with
  | new timetable => exact displays_new timetable
  | step hreach hstep ih =>
      cases hstep with
      | mutate mutation => exact ih.afterMutate mutation
      | start hstart => exact ih.afterStart hstart
      | refuse hstart =>
          rw [startSearch_eq_error hstart]
          exact ih
      | commit hmem hsearch => exact ih.afterCommit hreach.good hmem hsearch
      | abort => exact ih.afterAbort List.erase_subset

/-- Breaks are left alone. -/
theorem Step.breaks_eq (hstep : Step live later) :
    later.conference.timetable.breaks = live.conference.timetable.breaks := by
  cases hstep with
  | mutate mutation =>
      rcases live.conference.mutated_cases mutation with ⟨locked, hlock⟩ | ⟨htimetable, _⟩
      · rw [hlock]
        exact Timetable.breaks_withLocks _ locked
      · rw [htimetable]
  | start hstart =>
      obtain ⟨_, _, rfl⟩ := startSearch_eq_ok hstart
      rfl
  | refuse hstart => rw [startSearch_eq_error hstart]
  | @commit snapshot _ _ _ _ _ outcome _ _ =>
      rcases live.conference.commit_cases outcome.schedule with
        ⟨_, _, hcommit⟩ | ⟨_, ⟨_, _, hcommit⟩ | ⟨_, hcommit⟩⟩
      · rw [hcommit]
        rfl
      · rw [hcommit]
        rfl
      · rw [hcommit]
        exact (Timetable.breaks_withLocks _ _).trans (Timetable.breaks_place _ _ _)
  | abort => rfl

theorem reachable_of_steps
    {timetable : Timetable}
    (hsteps : Relation.ReflTransGen Step { conference := .new timetable } live) :
    live.Reachable := by
  induction hsteps with
  | refl => exact .new timetable
  | tail _ hstep ih => exact ih.step hstep

theorem breaks_of_steps (hsteps : Relation.ReflTransGen Step live later) :
    later.conference.timetable.breaks = live.conference.timetable.breaks := by
  induction hsteps with
  | refl => rfl
  | tail _ hstep ih => exact hstep.breaks_eq.trans ih

end Live

end Unconference
