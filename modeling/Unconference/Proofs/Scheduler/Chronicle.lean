import Unconference.Proofs.Conference.Refusals
import Unconference.Scheduler

/-!
# The chronicle of a scheduler

A chronicle is a scheduler together with what has happened to it so far, event by event, and the
runs that have not ended.  Whoever holds a run holds a ticket that remembers how long the chronicle
was when the snapshot was taken; a run that is committed leaves its ticket behind.  What the flags
of the scheduler say about the past can be compared with the past itself.
-/

namespace Unconference

namespace Scheduler

/-- A change of the data, asked for by name; of the answer only success matters. -/
def perform (scheduler : Scheduler) : Mutation → Except SchedulerError Unit × Scheduler
  | .addUser name => (scheduler.addUser name).map (Except.map fun _ => ()) id
  | .addDiscussion owner title isPublic =>
    (scheduler.addDiscussion owner title isPublic).map (Except.map fun _ => ()) id
  | .setInterest user discussion value => scheduler.setInterest user discussion value
  | .setPublic discussion isPublic => scheduler.setPublic discussion isPublic
  | .setPossibleSlots discussion possibleSlots =>
    scheduler.setPossibleSlots discussion possibleSlots
  | .setLockedSlots locked => scheduler.setLockedSlots locked

end Scheduler

/-- What the search of a run may come to, whatever the clock and the random source are. -/
def Run.Finds (run : Run) (found : Except SearchFailure SearchOutcome) : Prop :=
  ∃ (σ : Type) (_ : RandomSource σ) (clock : Clock) (source : σ),
    run.snapshot.search run.options clock source = found

theorem Run.finds_search (run : Run) (clock : Clock) (entropy : Key) :
    run.Finds (run.search clock entropy) :=
  ⟨KeyStream, inferInstance, clock, run.options.stream entropy, rfl⟩

structure Ticket where
  run : Run
  /-- The number of events before the snapshot. -/
  mark : Nat
deriving DecidableEq

inductive Event where
  | mutated (mutation : Mutation) (answer : Except SchedulerError Unit)
  | started (run : Run)
  | notStarted (error : SchedulerError)
  | committed (ticket : Ticket) (committed : Committed)
  | failed (ticket : Ticket) (error : SchedulerError)
  | abandoned (ticket : Ticket)
  | poisoned

/-- Whether the data was changed. -/
def Event.isChange : Event → Bool
  | mutated _ (.ok ()) => true
  | _ => false

def Event.committed? : Event → Option Ticket
  | committed ticket _ => some ticket
  | _ => none

structure Chronicle where
  scheduler : Scheduler
  /-- The oldest first. -/
  events : List Event := []
  outstanding : List Ticket := []

namespace Chronicle

/-- The run behind the committed schedule. -/
def basis (chronicle : Chronicle) : Option Ticket :=
  (chronicle.events.filterMap Event.committed?).getLast?

/-- When the snapshot behind the committed schedule was taken, or else the beginning. -/
def basisMark (chronicle : Chronicle) : Nat := (chronicle.basis.map Ticket.mark).getD 0

def changedSince (chronicle : Chronicle) (mark : Nat) : Bool :=
  (chronicle.events.drop mark).any Event.isChange

/-- The chronicle after one more event, a step in which no run begins or ends. -/
def noted (chronicle : Chronicle) (event : Event) (scheduler : Scheduler) : Chronicle :=
  { chronicle with scheduler, events := chronicle.events ++ [event] }

def performed (chronicle : Chronicle) (mutation : Mutation) : Chronicle :=
  chronicle.noted (.mutated mutation (chronicle.scheduler.perform mutation).1)
    (chronicle.scheduler.perform mutation).2

def begun (chronicle : Chronicle) (run : Run) (scheduler : Scheduler) : Chronicle where
  scheduler
  events := chronicle.events ++ [.started run]
  outstanding := { run, mark := chronicle.events.length } :: chronicle.outstanding

def ended (chronicle : Chronicle) (ticket : Ticket) (event : Event) (scheduler : Scheduler) :
    Chronicle where
  scheduler
  events := chronicle.events ++ [event]
  outstanding := chronicle.outstanding.erase ticket

/-- What can happen next.  The relation `finds` says what the search of a run may come to. -/
inductive Step (finds : Run → Except SearchFailure SearchOutcome → Prop) :
    Chronicle → Chronicle → Prop
  | mutate (chronicle : Chronicle) (mutation : Mutation) :
      Step finds chronicle (chronicle.performed mutation)
  | start {chronicle : Chronicle} {options : SearchOptions} {hasRuntime : Bool} {run : Run}
      {after : Scheduler} :
      chronicle.scheduler.makeSchedule options hasRuntime = (.ok run, after) →
      Step finds chronicle (chronicle.begun run after)
  | refuse {chronicle : Chronicle} {options : SearchOptions} {hasRuntime : Bool}
      {error : SchedulerError} {after : Scheduler} :
      chronicle.scheduler.makeSchedule options hasRuntime = (.error error, after) →
      Step finds chronicle (chronicle.noted (.notStarted error) after)
  | commit {chronicle : Chronicle} {ticket : Ticket}
      {found : Except SearchFailure SearchOutcome} {committed : Committed} {after : Scheduler} :
      ticket ∈ chronicle.outstanding → finds ticket.run found →
      chronicle.scheduler.finish found = (.ok committed, after) →
      Step finds chronicle (chronicle.ended ticket (.committed ticket committed) after)
  | fail {chronicle : Chronicle} {ticket : Ticket}
      {found : Except SearchFailure SearchOutcome} {error : SchedulerError} {after : Scheduler} :
      ticket ∈ chronicle.outstanding → finds ticket.run found →
      chronicle.scheduler.finish found = (.error error, after) →
      Step finds chronicle (chronicle.ended ticket (.failed ticket error) after)
  | abandon {chronicle : Chronicle} {ticket : Ticket} :
      ticket ∈ chronicle.outstanding →
      Step finds chronicle
        (chronicle.ended ticket (.abandoned ticket) chronicle.scheduler.abandon)
  | poison (chronicle : Chronicle) :
      Step finds chronicle (chronicle.noted .poisoned chronicle.scheduler.poison)

/-- The chronicles of the schedulers that were created for any timetable. -/
inductive Reachable (finds : Run → Except SearchFailure SearchOutcome → Prop) : Chronicle → Prop
  | new (timetable : Timetable) : Reachable finds { scheduler := .new timetable }
  | step {chronicle later : Chronicle} :
      Reachable finds chronicle → Step finds chronicle later → Reachable finds later

end Chronicle

/-! ## What the steps do to the scheduler -/

namespace Scheduler

variable {scheduler after : Scheduler}

theorem inspect_of_not_poisoned
    {α : Type} (hpoisoned : scheduler.isPoisoned = false)
    (look : Conference → Except Refusal α) :
    scheduler.inspect look = (look scheduler.conference).mapError .refused :=
  if_neg (Bool.eq_false_iff.1 hpoisoned)

theorem state_of_not_poisoned (hpoisoned : scheduler.isPoisoned = false) :
    scheduler.state = .ok scheduler.conference.state :=
  inspect_of_not_poisoned hpoisoned _

theorem locked_map {α β : Type} (scheduler : Scheduler)
    (operation : Conference → Except Refusal α × Conference) (read : α → β) :
    (scheduler.locked operation).map (Except.map read) id =
      scheduler.locked fun conference => (operation conference).map (Except.map read) id := by
  unfold locked
  by_cases hpoisoned : scheduler.isPoisoned = true
  · simp only [if_pos hpoisoned]
    rfl
  · simp only [if_neg hpoisoned]
    obtain ⟨answer, conference⟩ := operation scheduler.conference
    cases answer <;> rfl

theorem perform_eq_locked (scheduler : Scheduler) (mutation : Mutation) :
    scheduler.perform mutation = scheduler.locked (·.attempt mutation) := by
  cases mutation with
  | addUser name =>
      simp only [perform, addUser, locked_map]
      rfl
  | addDiscussion owner title isPublic =>
      simp only [perform, addDiscussion, locked_map]
      rfl
  | setInterest | setPublic | setPossibleSlots | setLockedSlots => rfl

/-- A change is refused without a trace, or granted and marked in the conference. -/
theorem perform_cases (scheduler : Scheduler) (mutation : Mutation) :
    (∃ error, scheduler.perform mutation = (.error error, scheduler)) ∨
      scheduler.perform mutation =
          (.ok (), { scheduler with conference := scheduler.conference.mutated mutation }) ∧
        (scheduler.conference.mutated mutation).state = scheduler.conference.state.modified := by
  rw [perform_eq_locked, ← Conference.attempt_snd]
  unfold locked
  by_cases hpoisoned : scheduler.isPoisoned = true
  · exact .inl ⟨.poisoned, if_pos hpoisoned⟩
  · rw [if_neg hpoisoned]
    rcases scheduler.conference.settles_attempt mutation with
      ⟨refusal, hrefused⟩ | ⟨_, hgranted, hstate⟩
    · exact .inl ⟨.refused refusal, by simp only [hrefused]; rfl⟩
    · exact .inr ⟨by simp only [hgranted]; rfl, hstate⟩

theorem makeSchedule_cases
    (scheduler : Scheduler) (options : SearchOptions) (hasRuntime : Bool) :
    (∃ error, scheduler.makeSchedule options hasRuntime = (.error error, scheduler)) ∨
      ∃ snapshot conference,
        scheduler.conference.startSearch options.validation = (.ok snapshot, conference) ∧
          scheduler.makeSchedule options hasRuntime =
            (.ok { snapshot, options }, { scheduler with conference }) := by
  unfold makeSchedule locked
  cases hasRuntime with
  | false => exact .inl ⟨.noRuntime, rfl⟩
  | true =>
      by_cases hpoisoned : scheduler.isPoisoned = true
      · exact .inl ⟨.poisoned, by simp [hpoisoned]⟩
      · cases hstart : scheduler.conference.startSearch options.validation with
        | mk answer conference =>
            cases answer with
            | error refusal =>
                obtain rfl := Conference.startSearch_eq_error hstart
                refine .inl ⟨.refused refusal, ?_⟩
                simp only [if_true, if_neg hpoisoned, hstart]
                rfl
            | ok snapshot =>
                refine .inr ⟨snapshot, conference, rfl, ?_⟩
                simp only [if_true, if_neg hpoisoned, hstart]
                rfl

theorem makeSchedule_eq_ok
    {options : SearchOptions} {hasRuntime : Bool} {run : Run}
    (hmake : scheduler.makeSchedule options hasRuntime = (.ok run, after)) :
    ∃ conference,
      scheduler.conference.startSearch options.validation = (.ok run.snapshot, conference) ∧
        after = { scheduler with conference } := by
  rcases scheduler.makeSchedule_cases options hasRuntime with
    ⟨_, hfails⟩ | ⟨snapshot, conference, hstart, hsucceeds⟩
  · rw [hfails] at hmake
    cases hmake
  · rw [hsucceeds] at hmake
    cases hmake
    exact ⟨conference, hstart, rfl⟩

theorem makeSchedule_eq_error
    {options : SearchOptions} {hasRuntime : Bool} {error : SchedulerError}
    (hmake : scheduler.makeSchedule options hasRuntime = (.error error, after)) :
    after = scheduler := by
  rcases scheduler.makeSchedule_cases options hasRuntime with ⟨_, hfails⟩ | ⟨_, _, _, hsucceeds⟩
  · rw [hfails] at hmake
    exact (Prod.mk.inj hmake).2.symm
  · rw [hsucceeds] at hmake
    cases hmake

/-- The guard stays armed if the lock is not to be had.  Otherwise the run is ended inside, without
anything else being changed or with a commit. -/
theorem enter_cases
    (scheduler : Scheduler) (found : Except SearchFailure SearchOutcome) :
    (scheduler.isPoisoned = true ∧
        scheduler.enter found = (.error .poisoned, true, scheduler)) ∨
      scheduler.isPoisoned = false ∧
        ((∃ refusal,
            scheduler.enter found = (.error (.refused refusal), false, scheduler.abandon)) ∨
          ∃ outcome conference, found = .ok outcome ∧
            scheduler.conference.commit outcome.schedule = (.ok (), conference) ∧
              scheduler.enter found =
                (.ok {
                  outcome
                  timetable := conference.timetable
                  isStale := conference.state.isStale },
                false, { scheduler with conference })) := by
  unfold enter
  cases hpoisoned : scheduler.isPoisoned with
  | true => exact .inl ⟨rfl, if_pos rfl⟩
  | false =>
      refine .inr ⟨rfl, ?_⟩
      simp only [Bool.false_eq_true, if_false]
      cases found with
      | error failure => exact .inl ⟨_, rfl⟩
      | ok outcome =>
          cases hcommit : scheduler.conference.commit outcome.schedule with
          | mk answer conference =>
              cases answer with
              | error refusal =>
                  obtain ⟨rfl, _⟩ := Conference.commit_eq_error hcommit
                  refine .inl ⟨refusal, ?_⟩
                  simp only [hcommit]
                  simp only [abandon, hpoisoned]
              | ok =>
                  refine .inr ⟨outcome, conference, rfl, hcommit, ?_⟩
                  simp only [hcommit]

/-- A run that does not commit anything leaves nothing behind but that it has ended. -/
theorem finish_cases
    (scheduler : Scheduler) (found : Except SearchFailure SearchOutcome) :
    (∃ error, scheduler.finish found = (.error error, scheduler.abandon)) ∨
      ∃ outcome conference, found = .ok outcome ∧
        scheduler.conference.commit outcome.schedule = (.ok (), conference) ∧
          scheduler.finish found =
            (.ok {
              outcome
              timetable := conference.timetable
              isStale := conference.state.isStale }, { scheduler with conference }) := by
  unfold finish
  rcases scheduler.enter_cases found with
    ⟨_, henter⟩ | ⟨_, ⟨refusal, henter⟩ | ⟨outcome, conference, hfound, hcommit, henter⟩⟩
  · exact .inl ⟨.poisoned, by rw [henter]; rfl⟩
  · exact .inl ⟨.refused refusal, by rw [henter]; rfl⟩
  · exact .inr ⟨outcome, conference, hfound, hcommit, by rw [henter]; rfl⟩

theorem finish_eq_ok
    {found : Except SearchFailure SearchOutcome} {committed : Committed}
    (hfinish : scheduler.finish found = (.ok committed, after)) :
    ∃ outcome conference, found = .ok outcome ∧
      scheduler.conference.commit outcome.schedule = (.ok (), conference) ∧
      after = { scheduler with conference } ∧
      committed =
        { outcome, timetable := conference.timetable, isStale := conference.state.isStale } := by
  rcases scheduler.finish_cases found with
    ⟨_, hfails⟩ | ⟨outcome, conference, hfound, hcommit, hsucceeds⟩
  · rw [hfails] at hfinish
    cases hfinish
  · rw [hsucceeds] at hfinish
    cases hfinish
    exact ⟨outcome, conference, hfound, hcommit, rfl, rfl⟩

theorem finish_eq_error
    {found : Except SearchFailure SearchOutcome} {error : SchedulerError}
    (hfinish : scheduler.finish found = (.error error, after)) : after = scheduler.abandon := by
  rcases scheduler.finish_cases found with ⟨_, hfails⟩ | ⟨_, _, _, _, hsucceeds⟩
  · rw [hfails] at hfinish
    exact (Prod.mk.inj hfinish).2.symm
  · rw [hsucceeds] at hfinish
    cases hfinish

theorem finish_of_commit
    {outcome : SearchOutcome} {conference : Conference}
    (hpoisoned : scheduler.isPoisoned = false)
    (hcommit : scheduler.conference.commit outcome.schedule = (.ok (), conference)) :
    scheduler.finish (.ok outcome) =
      (.ok { outcome, timetable := conference.timetable, isStale := conference.state.isStale },
        { scheduler with conference }) := by
  simp only [finish, enter, hpoisoned, Bool.false_eq_true, if_false, hcommit]
  rfl

theorem store_eq_ok
    {persistence : Persistence} {directory stored : Directory} {committed : Committed}
    {report : RunReport}
    (hstore : store persistence directory committed = (.ok report, stored)) :
    ∃ persistError, report = committed.report persistError := by
  unfold store at hstore
  split at hstore
  · exact ⟨none, (Except.ok.inj (Prod.mk.inj hstore).1).symm⟩
  · rename_i message _ _
    exact ⟨some message, (Except.ok.inj (Prod.mk.inj hstore).1).symm⟩
  · cases hstore

end Scheduler

end Unconference
