import Unconference.Proofs.Conference.Locks
import Unconference.Proofs.Scheduler.Chronicle

/-!
# Whether the committed schedule is out of date

The flags of a scheduler are updated by every change, every start and every end of a run, each time
from the flags alone.  Against the chronicle they are exact: the schedule is stale if and only if
the data was changed after the snapshot that the schedule was searched on, and a run reports that
it is stale if and only if the data was changed while it ran.
-/

namespace Unconference

/-- The data is what the run took its snapshot of. -/
def Ticket.Matches (ticket : Ticket) (conference : Conference) : Prop :=
  conference.ledger = ticket.run.snapshot.ledger ∧
    conference.locked = ticket.run.snapshot.locked

theorem Event.committed?_of_isChange {event : Event} (hchange : event.isChange = true) :
    event.committed? = none := by
  cases event with
  | committed ticket committed => cases hchange
  | _ => rfl

namespace Chronicle

variable {finds : Run → Except SearchFailure SearchOutcome → Prop}
  {chronicle later : Chronicle} {event : Event}

/-! ## One more event -/

theorem changedSince_append
    (hevents : later.events = chronicle.events ++ [event]) {mark : Nat}
    (hmark : mark ≤ chronicle.events.length) :
    later.changedSince mark = (chronicle.changedSince mark || event.isChange) := by
  unfold changedSince
  rw [hevents, List.drop_append_of_le_length hmark, List.any_append]
  simp

theorem changedSince_append_of_quiet
    (hevents : later.events = chronicle.events ++ [event]) (hquiet : event.isChange = false)
    {mark : Nat} (hmark : mark ≤ chronicle.events.length) :
    later.changedSince mark = chronicle.changedSince mark := by
  rw [changedSince_append hevents hmark, hquiet, Bool.or_false]

theorem changedSince_mono {early late : Nat} (hle : early ≤ late)
    (hchanged : chronicle.changedSince late = true) : chronicle.changedSince early = true := by
  unfold changedSince at *
  obtain ⟨event, hmem, hchange⟩ := List.any_eq_true.1 hchanged
  have hsuffix := List.drop_suffix_drop_left chronicle.events hle
  exact List.any_eq_true.2 ⟨event, hsuffix.subset hmem, hchange⟩

theorem length_append (hevents : later.events = chronicle.events ++ [event]) :
    later.events.length = chronicle.events.length + 1 := by
  rw [hevents, List.length_append]
  rfl

theorem basis_append (hevents : later.events = chronicle.events ++ [event]) :
    later.basis = event.committed?.or chronicle.basis := by
  unfold basis
  rw [hevents, List.filterMap_append, List.getLast?_append]
  cases hcommitted : event.committed? <;> simp [hcommitted]

theorem basis_append_of_none
    (hevents : later.events = chronicle.events ++ [event]) (hnone : event.committed? = none) :
    later.basis = chronicle.basis := by
  rw [basis_append hevents, hnone, Option.none_or]

theorem basisMark_append_of_none
    (hevents : later.events = chronicle.events ++ [event]) (hnone : event.committed? = none) :
    later.basisMark = chronicle.basisMark := by
  unfold basisMark
  rw [basis_append_of_none hevents hnone]

/-! ## The invariant -/

structure Good (finds : Run → Except SearchFailure SearchOutcome → Prop)
    (chronicle : Chronicle) : Prop where
  running :
    chronicle.outstanding.length = chronicle.scheduler.conference.state.isRunning.toNat
  marks : ∀ ticket ∈ chronicle.outstanding,
    chronicle.basisMark ≤ ticket.mark ∧ ticket.mark ≤ chronicle.events.length
  basisMark_le : chronicle.basisMark ≤ chronicle.events.length
  sinceSchedule : chronicle.scheduler.conference.state.changedSinceSchedule =
    chronicle.changedSince chronicle.basisMark
  sinceSnapshot : ∀ ticket ∈ chronicle.outstanding,
    chronicle.scheduler.conference.state.changedSinceSnapshot =
      chronicle.changedSince ticket.mark
  matching : ∀ ticket, ticket ∈ chronicle.outstanding ∨ chronicle.basis = some ticket →
    chronicle.changedSince ticket.mark = false → ticket.Matches chronicle.scheduler.conference
  uncommitted : chronicle.basis = none → chronicle.scheduler.conference.schedule = none
  committed : ∀ ticket, chronicle.basis = some ticket →
    ∃ outcome, finds ticket.run (.ok outcome) ∧
      chronicle.scheduler.conference.schedule = some outcome.schedule

theorem good_new (timetable : Timetable) : Good finds { scheduler := .new timetable } := by
  constructor
  · rfl
  · intro ticket hmem
    cases hmem
  · exact Nat.le_refl _
  · rfl
  · intro ticket hmem
    cases hmem
  · rintro ticket (hmem | hbasis)
    · cases hmem
    · cases hbasis
  · intro _
    rfl
  · intro ticket hbasis
    cases hbasis

theorem Good.mark_le
    (hgood : chronicle.Good finds) {ticket : Ticket}
    (hticket : ticket ∈ chronicle.outstanding ∨ chronicle.basis = some ticket) :
    ticket.mark ≤ chronicle.events.length := by
  rcases hticket with hmem | hbasis
  · exact (hgood.marks ticket hmem).2
  · have hle := hgood.basisMark_le
    unfold basisMark at hle
    rwa [hbasis] at hle

theorem Good.isRunning
    (hgood : chronicle.Good finds) {ticket : Ticket} (hmem : ticket ∈ chronicle.outstanding) :
    chronicle.scheduler.conference.state.isRunning = true :=
  eq_true_of_mem_of_toNat hgood.running hmem

/-- An event that neither changes the data nor commits anything leaves the flags exact. -/
theorem Good.afterQuiet
    (hgood : chronicle.Good finds) (hevents : later.events = chronicle.events ++ [event])
    (hquiet : event.isChange = false) (hnone : event.committed? = none)
    (houtstanding : later.outstanding ⊆ chronicle.outstanding)
    (hrunning : later.outstanding.length = later.scheduler.conference.state.isRunning.toNat)
    (hconference : ∃ isRunning, later.scheduler.conference =
      { chronicle.scheduler.conference with
        state := { chronicle.scheduler.conference.state with isRunning } }) :
    later.Good finds := by
  obtain ⟨isRunning, hconference⟩ := hconference
  have hlength := length_append hevents
  have hbasis := basis_append_of_none hevents hnone
  have hbasisMark := basisMark_append_of_none hevents hnone
  have hsince {mark : Nat} (hmark : mark ≤ chronicle.events.length) :=
    changedSince_append_of_quiet hevents hquiet hmark
  constructor
  · exact hrunning
  · intro ticket hmem
    have hmarks := hgood.marks ticket (houtstanding hmem)
    omega
  · have hle := hgood.basisMark_le
    omega
  · rw [hbasisMark, hsince hgood.basisMark_le, hconference]
    exact hgood.sinceSchedule
  · intro ticket hmem
    rw [hsince (hgood.marks ticket (houtstanding hmem)).2, hconference]
    exact hgood.sinceSnapshot ticket (houtstanding hmem)
  · intro ticket hticket hunchanged
    rw [hbasis] at hticket
    have hbefore := hticket.imp_left fun hmem => houtstanding hmem
    rw [hsince (hgood.mark_le hbefore)] at hunchanged
    rw [hconference]
    exact hgood.matching ticket hbefore hunchanged
  · rw [hbasis, hconference]
    exact hgood.uncommitted
  · rw [hbasis, hconference]
    exact hgood.committed

/-- A change is after every snapshot there is, so both flags are set. -/
theorem Good.afterChange
    (hgood : chronicle.Good finds) (hevents : later.events = chronicle.events ++ [event])
    (hchange : event.isChange = true) (houtstanding : later.outstanding = chronicle.outstanding)
    (hschedule :
      later.scheduler.conference.schedule = chronicle.scheduler.conference.schedule)
    (hstate :
      later.scheduler.conference.state = chronicle.scheduler.conference.state.modified) :
    later.Good finds := by
  have hnone := Event.committed?_of_isChange hchange
  have hlength := length_append hevents
  have hbasis := basis_append_of_none hevents hnone
  have hbasisMark := basisMark_append_of_none hevents hnone
  have hsince {mark : Nat} (hmark : mark ≤ chronicle.events.length) :
      later.changedSince mark = true := by
    rw [changedSince_append hevents hmark, hchange, Bool.or_true]
  constructor
  · rw [houtstanding, hstate]
    exact hgood.running
  · intro ticket hmem
    rw [houtstanding] at hmem
    have hmarks := hgood.marks ticket hmem
    omega
  · have hle := hgood.basisMark_le
    omega
  · rw [hbasisMark, hsince hgood.basisMark_le, hstate]
    rfl
  · intro ticket hmem
    rw [houtstanding] at hmem
    rw [hsince (hgood.marks ticket hmem).2, hstate, RunState.modified, hgood.isRunning hmem]
    rfl
  · -- the change is after every mark, so nothing has to match any more
    intro ticket hticket hunchanged
    rw [houtstanding, hbasis] at hticket
    rw [hsince (hgood.mark_le hticket)] at hunchanged
    cases hunchanged
  · rw [hbasis, hschedule]
    exact hgood.uncommitted
  · rw [hbasis, hschedule]
    exact hgood.committed

/-- A snapshot is taken when no other run is outstanding, and is of the data as it is. -/
theorem Good.afterStart
    (hgood : chronicle.Good finds) (hevents : later.events = chronicle.events ++ [event])
    (hquiet : event.isChange = false) (hnone : event.committed? = none)
    {validation : Validation} {run : Run}
    (houtstanding :
      later.outstanding = ⟨run, chronicle.events.length⟩ :: chronicle.outstanding)
    (hstart : chronicle.scheduler.conference.startSearch validation =
      (.ok run.snapshot, later.scheduler.conference)) :
    later.Good finds := by
  obtain ⟨hidle, htake, hconference⟩ := Conference.startSearch_eq_ok hstart
  have hlength := length_append hevents
  have hbasis := basis_append_of_none hevents hnone
  have hbasisMark := basisMark_append_of_none hevents hnone
  have hle := hgood.basisMark_le
  have hsince {mark : Nat} (hmark : mark ≤ chronicle.events.length) :=
    changedSince_append_of_quiet hevents hquiet hmark
  rw [eq_nil_of_toNat hgood.running hidle] at houtstanding
  constructor
  · rw [houtstanding, hconference]
    rfl
  · intro ticket hmem
    obtain rfl := List.mem_singleton.1 (houtstanding ▸ hmem)
    rw [hbasisMark, hlength]
    exact ⟨hle, Nat.le_succ _⟩
  · omega
  · rw [hbasisMark, hsince hle, hconference]
    exact hgood.sinceSchedule
  · -- there are no events yet after the mark of the new ticket
    intro ticket hmem
    obtain rfl := List.mem_singleton.1 (houtstanding ▸ hmem)
    rw [hsince (Nat.le_refl _), hconference, changedSince, List.drop_length]
    rfl
  · rintro ticket (hmem | hcommitted) hunchanged
    · obtain rfl := List.mem_singleton.1 (houtstanding ▸ hmem)
      have hsnapshot := Snapshot.take_eq_ok htake
      rw [Ticket.Matches, hsnapshot, hconference]
      exact ⟨rfl, rfl⟩
    · rw [hbasis] at hcommitted
      rw [hsince (hgood.mark_le (.inr hcommitted))] at hunchanged
      rw [hconference]
      exact hgood.matching ticket (.inr hcommitted) hunchanged
  · rw [hbasis, hconference]
    exact hgood.uncommitted
  · rw [hbasis, hconference]
    exact hgood.committed

/-- A commit keeps of the two flags what was set since its snapshot. -/
theorem Good.changedSinceSchedule_succeeded
    (hgood : chronicle.Good finds) {ticket : Ticket} (hmem : ticket ∈ chronicle.outstanding) :
    chronicle.scheduler.conference.state.succeeded.changedSinceSchedule =
      chronicle.changedSince ticket.mark := by
  change (chronicle.scheduler.conference.state.changedSinceSnapshot &&
    chronicle.scheduler.conference.state.changedSinceSchedule) = _
  rw [hgood.sinceSnapshot ticket hmem, hgood.sinceSchedule]
  cases hchanged : chronicle.changedSince ticket.mark with
  | false => rfl
  | true => exact changedSince_mono (hgood.marks ticket hmem).1 hchanged

theorem Good.afterCommit
    (hgood : chronicle.Good finds) (hevents : later.events = chronicle.events ++ [event])
    (hquiet : event.isChange = false) {ticket : Ticket}
    (hsome : event.committed? = some ticket) (hmem : ticket ∈ chronicle.outstanding)
    (houtstanding : later.outstanding = []) {outcome : SearchOutcome}
    (hfinds : finds ticket.run (.ok outcome))
    (hcommit : chronicle.scheduler.conference.commit outcome.schedule =
      (.ok (), later.scheduler.conference)) :
    later.Good finds := by
  obtain ⟨_, hconference⟩ := Conference.commit_eq_ok hcommit
  have hmark := hgood.mark_le (.inl hmem)
  have hlength := length_append hevents
  have hbasis : later.basis = some ticket := by
    rw [basis_append hevents, hsome, Option.some_or]
  have hbasisMark : later.basisMark = ticket.mark := by
    rw [basisMark, hbasis]
    rfl
  have hsince := changedSince_append_of_quiet hevents hquiet hmark
  have hnone (other : Ticket) : other ∉ later.outstanding := by
    rw [houtstanding]
    exact List.not_mem_nil
  constructor
  · rw [houtstanding, hconference]
    rfl
  · exact fun other hother => absurd hother (hnone other)
  · omega
  · rw [hbasisMark, hsince, hconference]
    exact hgood.changedSinceSchedule_succeeded hmem
  · exact fun other hother => absurd hother (hnone other)
  · rintro other (hother | hcommitted) hunchanged
    · exact absurd hother (hnone other)
    · obtain rfl := Option.some.inj (hbasis.symm.trans hcommitted)
      rw [hsince] at hunchanged
      rw [hconference]
      exact hgood.matching ticket (.inl hmem) hunchanged
  · rw [hbasis]
    intro habsent
    cases habsent
  · rw [hbasis]
    rintro other ⟨⟩
    exact ⟨outcome, hfinds, by rw [hconference]⟩

theorem Good.afterAbandon
    (hgood : chronicle.Good finds) {ticket : Ticket} (hmem : ticket ∈ chronicle.outstanding)
    (hquiet : event.isChange = false) (hnone : event.committed? = none) :
    (chronicle.ended ticket event chronicle.scheduler.abandon).Good finds := by
  apply hgood.afterQuiet rfl hquiet hnone
  · exact List.erase_subset
  · rw [ended, erase_eq_nil_of_toNat hgood.running hmem]
    rfl
  · exact ⟨false, rfl⟩

theorem Good.step (hgood : chronicle.Good finds) (hstep : Step finds chronicle later) :
    later.Good finds := by
  cases hstep with
  | mutate mutation =>
      rcases chronicle.scheduler.perform_cases mutation with
        ⟨error, hrefused⟩ | ⟨hgranted, hstate⟩
      · rw [performed, hrefused]
        exact hgood.afterQuiet rfl rfl rfl (fun _ hmem => hmem) hgood.running ⟨_, rfl⟩
      · rw [performed, hgranted]
        exact hgood.afterChange rfl rfl rfl (Conference.schedule_mutated _ mutation) hstate
  | start hmake =>
      obtain ⟨conference, hstart, rfl⟩ := Scheduler.makeSchedule_eq_ok hmake
      exact hgood.afterStart rfl rfl rfl rfl hstart
  | refuse hmake =>
      obtain rfl := Scheduler.makeSchedule_eq_error hmake
      exact hgood.afterQuiet rfl rfl rfl (fun _ hmem => hmem) hgood.running ⟨_, rfl⟩
  | commit hmem hfinds hfinish =>
      obtain ⟨outcome, conference, rfl, hcommit, rfl, _⟩ := Scheduler.finish_eq_ok hfinish
      have hlast := erase_eq_nil_of_toNat hgood.running hmem
      exact hgood.afterCommit rfl rfl rfl hmem hlast hfinds hcommit
  | fail hmem _ hfinish =>
      obtain rfl := Scheduler.finish_eq_error hfinish
      exact hgood.afterAbandon hmem rfl rfl
  | abandon hmem => exact hgood.afterAbandon hmem rfl rfl
  | poison => exact hgood.afterQuiet rfl rfl rfl (fun _ hmem => hmem) hgood.running ⟨_, rfl⟩

theorem Reachable.good (hreach : chronicle.Reachable finds) : chronicle.Good finds := by
  induction hreach with
  | new timetable => exact good_new timetable
  | step _ hstep ih => exact ih.step hstep

theorem Good.isStale_finish
    (hgood : chronicle.Good finds) {ticket : Ticket} (hmem : ticket ∈ chronicle.outstanding)
    {found : Except SearchFailure SearchOutcome} {committed : Committed} {after : Scheduler}
    (hfinish : chronicle.scheduler.finish found = (.ok committed, after)) :
    committed.isStale = chronicle.changedSince ticket.mark := by
  obtain ⟨outcome, conference, _, hcommit, _, rfl⟩ := Scheduler.finish_eq_ok hfinish
  obtain ⟨_, rfl⟩ := Conference.commit_eq_ok hcommit
  exact hgood.changedSinceSchedule_succeeded hmem

/-- The stale flag is the truth about the past: it is set exactly if a change succeeded after the
snapshot of the committed schedule, or after the beginning, and a run reports it exactly if one
succeeded between its snapshot and its commit. -/
theorem stale_flag_is_exact
    {finds : Run → Except SearchFailure SearchOutcome → Prop} {chronicle : Chronicle}
    (hreach : chronicle.Reachable finds) :
    (chronicle.scheduler.conference.schedule = none ↔ chronicle.basis = none) ∧
    (chronicle.scheduler.isPoisoned = false →
      ∃ state, chronicle.scheduler.state = .ok state ∧
        state.isStale = chronicle.changedSince chronicle.basisMark ∧
        (state.isStale = false →
          ∀ schedule, chronicle.scheduler.conference.schedule = some schedule →
            ∃ ticket outcome, chronicle.basis = some ticket ∧
              finds ticket.run (.ok outcome) ∧ outcome.schedule = schedule ∧
              chronicle.scheduler.conference.ledger = ticket.run.snapshot.ledger ∧
              chronicle.scheduler.conference.locked = ticket.run.snapshot.locked)) ∧
    ∀ ticket ∈ chronicle.outstanding, ∀ found committed after, finds ticket.run found →
      chronicle.scheduler.finish found = (.ok committed, after) →
      ∀ persistence directory report stored,
        Scheduler.store persistence directory committed = (.ok report, stored) →
          report.isStale = chronicle.changedSince ticket.mark := by
  have hgood := hreach.good
  refine ⟨?_, ?_, ?_⟩
  · cases hbasis : chronicle.basis with
    | none => simpa using hgood.uncommitted hbasis
    | some ticket =>
        obtain ⟨outcome, _, hschedule⟩ := hgood.committed ticket hbasis
        simp [hschedule]
  · intro hpoisoned
    refine ⟨chronicle.scheduler.conference.state, ?_, hgood.sinceSchedule, ?_⟩
    · simp [Scheduler.state, Scheduler.inspect, hpoisoned, Except.mapError]
    · intro hcurrent schedule hschedule
      cases hbasis : chronicle.basis with
      | none =>
          rw [hgood.uncommitted hbasis] at hschedule
          cases hschedule
      | some ticket =>
          obtain ⟨outcome, hfinds, hcommitted⟩ := hgood.committed ticket hbasis
          have hmark : chronicle.basisMark = ticket.mark := by
            rw [basisMark, hbasis]
            rfl
          have hunchanged : chronicle.changedSince ticket.mark = false := by
            rw [← hmark, ← hgood.sinceSchedule]
            exact hcurrent
          refine ⟨ticket, outcome, rfl, hfinds, ?_, hgood.matching ticket (.inr hbasis) hunchanged⟩
          exact Option.some.inj (hcommitted.symm.trans hschedule)
  · intro ticket hmem found committed after _ hfinish persistence directory report stored hstore
    obtain ⟨persistError, rfl⟩ := Scheduler.store_eq_ok hstore
    exact hgood.isStale_finish hmem hfinish

/-! ## A search that is disturbed -/

open Live

def oneTalkRun : Run where
  snapshot := { oneTalkSnapshot with validation := .production }
  options := { algorithm := .heuristic }

/-- One discussion is waiting; a mistake was refused. -/
def oneTalkReady : Chronicle :=
  [.addUser "ada", .addDiscussion ⟨0⟩ "compilers" true, .setInterest ⟨0⟩ ⟨0⟩ 50,
    .setInterest ⟨0⟩ ⟨0⟩ 101].foldl performed { scheduler := .new morning }

def searching : Chronicle :=
  oneTalkReady.begun oneTalkRun (oneTalkReady.scheduler.makeSchedule oneTalkRun.options true).2

def disturbed : Chronicle := searching.performed (.setPublic ⟨0⟩ true)

def oneTalkTicket : Ticket := ⟨oneTalkRun, 4⟩

theorem search_oneTalkRun (clock : Clock) (entropy : Key) :
    oneTalkRun.search clock entropy = .ok oneTalkOutcome := by
  have hledger : oneTalkRun.snapshot.ledger.Reachable :=
    ((Ledger.Reachable.empty.addUser "ada").addDiscussion ⟨0⟩ "compilers" true 2).setInterest
      ⟨0⟩ ⟨0⟩ 50
  have horder : oneTalkRun.snapshot.byDemand = [⟨0⟩] := List.mergeSort_singleton _
  have hgreedy : oneTalkRun.snapshot.greedyOutcome = oneTalkOutcome := by
    unfold Snapshot.greedyOutcome Snapshot.greedyScore Snapshot.greedy
    rw [horder]
    decide
  rw [← hgreedy]
  exact Snapshot.search_heuristic_eq hledger.coherent (by decide) clock _

theorem finds_oneTalkRun : oneTalkRun.Finds (.ok oneTalkOutcome) :=
  search_oneTalkRun {} 0 ▸ oneTalkRun.finds_search {} 0

theorem Reachable.performAll
    {finds : Run → Except SearchFailure SearchOutcome → Prop} {chronicle : Chronicle}
    (hreach : chronicle.Reachable finds) (mutations : List Mutation) :
    (mutations.foldl performed chronicle).Reachable finds := by
  induction mutations generalizing chronicle with
  | nil => exact hreach
  | cons mutation rest ih => exact ih (hreach.step (.mutate chronicle mutation))

theorem searching_reachable : searching.Reachable Run.Finds := by
  have hready : oneTalkReady.Reachable Run.Finds := (Reachable.new morning).performAll _
  have hmake : oneTalkReady.scheduler.makeSchedule oneTalkRun.options true =
      (.ok oneTalkRun, (oneTalkReady.scheduler.makeSchedule oneTalkRun.options true).2) :=
    Prod.ext (by decide) rfl
  exact hready.step (.start hmake)

/-- Left alone, the search makes the schedule current; disturbed, it reports that it is stale. -/
theorem stale_flag_is_exact_about_searching :
    (∃ chronicle : Chronicle, chronicle.Reachable Run.Finds ∧
      chronicle.basis = some oneTalkTicket ∧
      (∃ state, chronicle.scheduler.state = .ok state ∧ state.isStale = false) ∧
      chronicle.scheduler.conference.ledger = oneTalkRun.snapshot.ledger) ∧
    disturbed.Reachable Run.Finds ∧
      ∃ committed after,
        disturbed.scheduler.finish (.ok oneTalkOutcome) = (.ok committed, after) ∧
          (committed.report none).isStale = true := by
  have hfinds : Run.Finds oneTalkTicket.run (.ok oneTalkOutcome) := finds_oneTalkRun
  have hdisturbed : disturbed.Reachable Run.Finds :=
    searching_reachable.step (.mutate searching (.setPublic ⟨0⟩ true))
  constructor
  · have hcommit : searching.scheduler.conference.commit oneTalkOutcome.schedule =
        (.ok (), (searching.scheduler.conference.commit oneTalkOutcome.schedule).2) :=
      Prod.ext (by decide) rfl
    have hfinish := Scheduler.finish_of_commit rfl hcommit
    have hlater := searching_reachable.step (.commit (by decide) hfinds hfinish)
    obtain ⟨_, hstate, _⟩ := stale_flag_is_exact hlater
    obtain ⟨state, hlook, hstale, hcurrent⟩ := hstate rfl
    have hunchanged : state.isStale = false := hstale.trans rfl
    obtain ⟨ticket, _, hbasis, _, _, hledger, _⟩ := hcurrent hunchanged _ rfl
    obtain rfl : oneTalkTicket = ticket := Option.some.inj hbasis
    exact ⟨_, hlater, rfl, ⟨state, hlook, hunchanged⟩, hledger⟩
  · have hcommit : disturbed.scheduler.conference.commit oneTalkOutcome.schedule =
        (.ok (), (disturbed.scheduler.conference.commit oneTalkOutcome.schedule).2) :=
      Prod.ext (by decide) rfl
    have hfinish := Scheduler.finish_of_commit rfl hcommit
    obtain ⟨_, _, hreports⟩ := stale_flag_is_exact hdisturbed
    refine ⟨hdisturbed, _, _, hfinish, ?_⟩
    have hstale := hreports oneTalkTicket (by decide) _ _ _ hfinds hfinish .nowhere ∅ _ _ rfl
    exact hstale.trans (by decide)

end Chronicle

end Unconference
