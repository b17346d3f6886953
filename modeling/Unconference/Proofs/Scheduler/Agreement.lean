import Unconference.Proofs.Conference.Display
import Unconference.Proofs.Scheduler.Staleness

/-!
# What is shown, reported and scored again

A committed schedule is scored by the search on its snapshot, put on display by the commit from the
ledger of that moment, and scored again by whoever asks.  While nothing counts as changed these are
three looks at one ledger, and they agree: the schedule is scored as it was reported, and the
timetable shows it discussion by discussion with everybody who is interested.

The steps of a chronicle are steps of the live conference behind it, or no steps at all, so what is
known of live conferences carries over.
-/

namespace Unconference

/-- What a run committed, with its ticket. -/
def Event.commitment? : Event → Option (Ticket × Committed)
  | committed ticket record => some (ticket, record)
  | _ => none

theorem Event.committed?_eq (event : Event) :
    event.committed? = event.commitment?.map (·.1) := by
  cases event <;> rfl

namespace Scheduler

variable {scheduler : Scheduler} {state : RunState}

theorem state_eq_ok (hstate : scheduler.state = .ok state) :
    scheduler.isPoisoned = false ∧ state = scheduler.conference.state := by
  cases hpoisoned : scheduler.isPoisoned with
  | true => simp [Scheduler.state, inspect, hpoisoned] at hstate
  | false =>
      rw [state_of_not_poisoned hpoisoned] at hstate
      exact ⟨rfl, (Except.ok.inj hstate).symm⟩

theorem timetable_of_not_poisoned (hpoisoned : scheduler.isPoisoned = false) :
    scheduler.timetable = .ok scheduler.conference.timetable :=
  inspect_of_not_poisoned hpoisoned _

theorem scheduleScore_of_fresh
    (hpoisoned : scheduler.isPoisoned = false) {schedule : Schedule}
    (hschedule : scheduler.conference.schedule = some schedule)
    (hledger : scheduler.conference.ledger.Coherent)
    (hfresh : schedule.Fresh scheduler.conference.ledger) :
    scheduler.scheduleScore = .ok (schedule.totalScore scheduler.conference.ledger) := by
  rw [scheduleScore, inspect_of_not_poisoned hpoisoned]
  simp only [hschedule, hfresh.score hledger]
  rfl

end Scheduler

namespace Chronicle

variable {finds : Run → Except SearchFailure SearchOutcome → Prop}
  {chronicle later : Chronicle} {event : Event} {ticket : Ticket} {committed : Committed}

/-! ## The live conference behind a chronicle -/

def live (chronicle : Chronicle) : Live where
  conference := chronicle.scheduler.conference
  inFlight := chronicle.outstanding.map (·.run.snapshot)

theorem Good.live_ended
    (hgood : chronicle.Good finds) (hmem : ticket ∈ chronicle.outstanding) (event : Event)
    (after : Scheduler) :
    (chronicle.ended ticket event after).live =
      { conference := after.conference
        inFlight := chronicle.live.inFlight.erase ticket.run.snapshot } := by
  have hperm := List.perm_cons_erase hmem
  rw [erase_eq_nil_of_toNat hgood.running hmem] at hperm
  have honly : chronicle.outstanding = [ticket] := List.perm_singleton.1 hperm
  simp [live, ended, honly]

theorem Step.live (hstep : Step Run.Finds chronicle later) (hgood : chronicle.Good Run.Finds) :
    Relation.ReflGen Live.Step chronicle.live later.live := by
  cases hstep with
  | mutate mutation =>
      rcases chronicle.scheduler.perform_cases mutation with ⟨error, hrefused⟩ | ⟨hgranted, _⟩
      · rw [performed, hrefused]
        exact .refl
      · rw [performed, hgranted]
        exact .single (.mutate chronicle.live mutation)
  | start hmake =>
      obtain ⟨conference, hstart, rfl⟩ := Scheduler.makeSchedule_eq_ok hmake
      exact .single (.start hstart)
  | refuse hmake =>
      rw [Scheduler.makeSchedule_eq_error hmake]
      exact .refl
  | commit hmem hfinds hfinish =>
      obtain ⟨outcome, conference, rfl, hcommit, rfl, _⟩ := Scheduler.finish_eq_ok hfinish
      obtain ⟨σ, _, clock, source, hsearch⟩ := hfinds
      have hafter : conference = (chronicle.live.conference.commit outcome.schedule).2 :=
        (congrArg Prod.snd hcommit).symm
      rw [hgood.live_ended hmem, hafter]
      exact .single (.commit (List.mem_map_of_mem hmem) hsearch)
  | fail hmem _ hfinish =>
      rw [Scheduler.finish_eq_error hfinish, hgood.live_ended hmem]
      exact .single (.abort (List.mem_map_of_mem hmem))
  | abandon hmem =>
      rw [hgood.live_ended hmem]
      exact .single (.abort (List.mem_map_of_mem hmem))
  | poison => exact .refl

theorem reachable_of_steps
    {timetable : Timetable}
    (hsteps : Relation.ReflTransGen (Step finds) { scheduler := .new timetable } chronicle) :
    chronicle.Reachable finds := by
  induction hsteps with
  | refl => exact .new timetable
  | tail _ hstep ih => exact ih.step hstep

theorem live_of_steps
    {timetable : Timetable}
    (hsteps :
      Relation.ReflTransGen (Step Run.Finds) { scheduler := .new timetable } chronicle) :
    Relation.ReflTransGen Live.Step { conference := .new timetable } chronicle.live := by
  induction hsteps with
  | refl => exact .refl
  | tail hsteps hstep ih =>
      exact ih.trans (hstep.live (reachable_of_steps hsteps).good).to_reflTransGen

/-! ## The last commit -/

/-- What was committed last, with the ticket of its run. -/
def lastCommitment (chronicle : Chronicle) : Option (Ticket × Committed) :=
  (chronicle.events.filterMap Event.commitment?).getLast?

theorem basis_eq (chronicle : Chronicle) :
    chronicle.basis = chronicle.lastCommitment.map (·.1) := by
  have hevents : Event.committed? = fun event => event.commitment?.map (·.1) :=
    funext Event.committed?_eq
  unfold basis lastCommitment
  rw [hevents, ← List.map_filterMap, List.getLast?_map]

theorem lastCommitment_append (hevents : later.events = chronicle.events ++ [event]) :
    later.lastCommitment = event.commitment?.or chronicle.lastCommitment := by
  unfold lastCommitment
  rw [hevents, List.filterMap_append, List.getLast?_append]
  cases hcommitted : event.commitment? <;> simp [hcommitted]

/-- The last commit tells what the schedule is. -/
def Recorded (finds : Run → Except SearchFailure SearchOutcome → Prop)
    (chronicle : Chronicle) : Prop :=
  ∀ ticket committed, chronicle.lastCommitment = some (ticket, committed) →
    finds ticket.run (.ok committed.outcome) ∧
      chronicle.scheduler.conference.schedule = some committed.outcome.schedule

theorem Recorded.afterOther
    (hrecorded : chronicle.Recorded finds)
    (hevents : later.events = chronicle.events ++ [event]) (hnone : event.commitment? = none)
    (hschedule :
      later.scheduler.conference.schedule = chronicle.scheduler.conference.schedule) :
    later.Recorded finds := by
  unfold Recorded
  rw [lastCommitment_append hevents, hnone, Option.none_or, hschedule]
  exact hrecorded

theorem Reachable.recorded (hreach : chronicle.Reachable finds) : chronicle.Recorded finds := by
  induction hreach with
  | new timetable =>
      intro ticket committed hlast
      cases hlast
  | @step chronicle later _ hstep ih =>
      cases hstep with
      | mutate mutation =>
          refine ih.afterOther rfl rfl ?_
          rcases chronicle.scheduler.perform_cases mutation with
            ⟨error, hrefused⟩ | ⟨hgranted, _⟩
          · rw [performed, hrefused]
            rfl
          · rw [performed, hgranted]
            exact Conference.schedule_mutated _ mutation
      | start hmake =>
          obtain ⟨conference, hstart, rfl⟩ := Scheduler.makeSchedule_eq_ok hmake
          obtain ⟨_, _, rfl⟩ := Conference.startSearch_eq_ok hstart
          exact ih.afterOther rfl rfl rfl
      | refuse hmake =>
          rw [Scheduler.makeSchedule_eq_error hmake]
          exact ih.afterOther rfl rfl rfl
      | commit _ hfinds hfinish =>
          obtain ⟨outcome, conference, rfl, hcommit, rfl, rfl⟩ := Scheduler.finish_eq_ok hfinish
          obtain ⟨_, hconference⟩ := Conference.commit_eq_ok hcommit
          intro last record hlast
          rw [lastCommitment_append rfl] at hlast
          obtain ⟨rfl, rfl⟩ := Prod.mk.inj (Option.some.inj hlast)
          exact ⟨hfinds, congrArg Conference.schedule hconference⟩
      | fail _ _ hfinish =>
          rw [Scheduler.finish_eq_error hfinish]
          exact ih.afterOther rfl rfl rfl
      | abandon => exact ih.afterOther rfl rfl rfl
      | poison => exact ih.afterOther rfl rfl rfl

/-- While nothing counts as changed, the ledger is the one that the committed schedule was searched
on. -/
theorem Reachable.ledger_eq_of_current
    (hreach : chronicle.Reachable finds)
    (hlast : chronicle.lastCommitment = some (ticket, committed))
    (hcurrent : chronicle.scheduler.conference.state.changedSinceSchedule = false) :
    chronicle.scheduler.conference.ledger = ticket.run.snapshot.ledger := by
  have hbasis : chronicle.basis = some ticket := by
    rw [basis_eq, hlast]
    rfl
  have hmark : chronicle.basisMark = ticket.mark := by
    rw [basisMark, hbasis]
    rfl
  rw [hreach.good.sinceSchedule, hmark] at hcurrent
  exact (hreach.good.matching ticket (.inr hbasis) hcurrent).1

/-- While a schedule is committed and not stale: asking for its score answers what its run reported,
the scores on display add up to that, every discussion of the schedule is displayed exactly once,
and it names whoever is interested in it, on the one side or on the other.  A break displays what it
did at the start, and if that is nothing, the sessions display all there is. -/
theorem shown_reported_and_rescored_agree
    {timetable : Timetable} {chronicle : Chronicle}
    (hsteps :
      Relation.ReflTransGen (Step Run.Finds) { scheduler := .new timetable } chronicle)
    {schedule : Schedule}
    (hschedule : chronicle.scheduler.conference.schedule = some schedule) {state : RunState}
    (hstate : chronicle.scheduler.state = .ok state) (hcurrent : state.isStale = false) :
    ∃ ticket committed calendar,
      chronicle.lastCommitment = some (ticket, committed) ∧
      committed.outcome.schedule = schedule ∧
      chronicle.scheduler.timetable = .ok calendar ∧
      (∀ persistence directory report stored,
        Scheduler.store persistence directory committed = (.ok report, stored) →
          chronicle.scheduler.scheduleScore = .ok report.score ∧
          total (calendar.displayed.map (·.score)) = report.score.score) ∧
      chronicle.scheduler.scheduleScore = .ok committed.outcome.score ∧
      total (calendar.displayed.map (·.score)) = committed.outcome.score.score ∧
      (calendar.displayed.map (·.id)).Perm schedule.listings ∧
      schedule.listings.Nodup ∧
      (∀ shown ∈ calendar.displayed, ∃ slot ∈ schedule.slots, shown.id ∈ slot.discussions ∧
        ∃ attendees absentees,
          shown.Divides chronicle.scheduler.conference.ledger slot attendees absentees) ∧
      calendar.breaks = timetable.breaks ∧
      ((∀ slot ∈ timetable.breaks, slot.discussions = []) →
        calendar.slots.flatMap (·.discussions) = calendar.displayed) := by
  obtain ⟨hpoisoned, rfl⟩ := Scheduler.state_eq_ok hstate
  have hreach := reachable_of_steps hsteps
  have hlive := live_of_steps hsteps
  have hgood := (Live.reachable_of_steps hlive).good
  have hdisplays := (Live.reachable_of_steps hlive).displays
  have hbreaks : chronicle.scheduler.conference.timetable.breaks = timetable.breaks :=
    Live.breaks_of_steps hlive
  have hledger := hgood.ledger.coherent
  cases hlast : chronicle.lastCommitment with
  | none =>
      have hbasis : chronicle.basis = none := by
        rw [basis_eq, hlast]
        rfl
      rw [hreach.good.uncommitted hbasis] at hschedule
      cases hschedule
  | some commitment =>
      obtain ⟨ticket, committed⟩ := commitment
      obtain ⟨⟨σ, _, clock, source, hsearch⟩, hcommitted⟩ := hreach.recorded ticket committed hlast
      obtain rfl : committed.outcome.schedule = schedule :=
        Option.some.inj (hcommitted.symm.trans hschedule)
      -- the snapshot, the display and the scoring of now look at the same ledger
      have hsame := hreach.ledger_eq_of_current hlast hcurrent
      have hcoherent : ticket.run.snapshot.ledger.Coherent := hsame ▸ hledger
      have hfinds := Snapshot.finds_of_search_eq_ok hcoherent hsearch
      have hfresh := (hfinds.builds.fits hcoherent).fresh
      have hscore := hfinds.score
      rw [← hsame] at hfresh hscore
      have hshows := hdisplays.shown hcurrent _ hschedule
      have hrescored := Scheduler.scheduleScore_of_fresh hpoisoned hschedule hledger hfresh
      rw [← hscore] at hrescored
      have htotal := hshows.total_score.trans (congrArg Score.score hscore.symm)
      refine ⟨ticket, committed, _, rfl, rfl, Scheduler.timetable_of_not_poisoned hpoisoned, ?_,
        hrescored, htotal, ?_, hgood.once _ hschedule, ?_, hbreaks, ?_⟩
      · intro persistence directory report stored hstore
        obtain ⟨persistError, rfl⟩ := Scheduler.store_eq_ok hstore
        exact ⟨hrescored, htotal⟩
      · exact hshows.ids_displayed (hdisplays.known _ hschedule)
      · exact fun shown hmem => hshows.divides hledger hfresh hmem
      · intro hempty
        apply Timetable.displayed_eq_of_breaks
        rw [hbreaks]
        exact hempty

/-! ## One talk on display -/

open Live

theorem steps_performAll (chronicle : Chronicle) (mutations : List Mutation) :
    Relation.ReflTransGen (Step finds) chronicle (mutations.foldl performed chronicle) := by
  induction mutations generalizing chronicle with
  | nil => exact .refl
  | cons mutation rest ih => exact .head (.mutate chronicle mutation) (ih _)

theorem shown_reported_and_rescored_agree_on_one_talk :
    ∃ chronicle calendar,
      Relation.ReflTransGen (Step Run.Finds) { scheduler := .new morning } chronicle ∧
        chronicle.scheduler.timetable = .ok calendar ∧
        chronicle.scheduler.scheduleScore = .ok ⟨50, 0⟩ ∧
        calendar.displayed.map (·.id) = [⟨0⟩] ∧
        total (calendar.displayed.map (·.score)) = 50 := by
  have hready : Relation.ReflTransGen (Step Run.Finds) { scheduler := .new morning }
      oneTalkReady := steps_performAll _ _
  have hmake : oneTalkReady.scheduler.makeSchedule oneTalkRun.options true =
      (.ok oneTalkRun, (oneTalkReady.scheduler.makeSchedule oneTalkRun.options true).2) :=
    Prod.ext (by decide) rfl
  have hfinds : Run.Finds oneTalkTicket.run (.ok oneTalkOutcome) := finds_oneTalkRun
  have hcommit : searching.scheduler.conference.commit oneTalkOutcome.schedule =
      (.ok (), (searching.scheduler.conference.commit oneTalkOutcome.schedule).2) :=
    Prod.ext (by decide) rfl
  have hfinish := Scheduler.finish_of_commit rfl hcommit
  have hsteps := (hready.tail (.start hmake)).tail (.commit (by decide) hfinds hfinish)
  obtain ⟨ticket, committed, calendar, hlast, _, hcalendar, _, hscore, htotal, hids, _⟩ :=
    shown_reported_and_rescored_agree hsteps rfl rfl rfl
  cases hlast
  exact ⟨_, calendar, hsteps, hcalendar, hscore, List.perm_singleton.1 hids, htotal⟩

end Chronicle

end Unconference
