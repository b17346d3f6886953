import Unconference.Conference
import Unconference.Proofs.Search.Outcome
import Unconference.Proofs.Timetable.Outline

/-!
# What the operations of a conference do

Starting a search changes the flags and nothing else, and only if it succeeds.  A commit either
fails, for one of three reasons, and ends the search, or replaces the schedule and the timetable
that shows it.
-/

namespace Unconference

namespace Conference

variable {conference after : Conference}

/-! ## Changes of the ledger -/

/-- An operation on the ledger changes nothing else, and counts as a change if it succeeds. -/
theorem withLedger_snd {α : Type} (answer : Except Refusal α × Ledger) :
    (conference.withLedger answer).2 =
      { conference with
        ledger := answer.2
        state := match answer.1 with
          | .ok _ => conference.state.modified
          | .error _ => conference.state } := by
  obtain ⟨result, ledger⟩ := answer
  cases result <;> rfl

@[simp] theorem isRunning_withLedger {α : Type} (answer : Except Refusal α × Ledger) :
    (conference.withLedger answer).2.state.isRunning = conference.state.isRunning := by
  rw [withLedger_snd]
  cases answer.1 <;> rfl

/-! ## Starting a search -/

/-- A search starts if none runs and the snapshot can be taken; otherwise nothing changes. -/
theorem startSearch_cases (conference : Conference) (validation : Validation) :
    (conference.state.isRunning = true ∧
        conference.startSearch validation = (.error .searchInProgress, conference)) ∨
      conference.state.isRunning = false ∧
        ((∃ refusal,
            Snapshot.take conference.ledger conference.locked conference.timetable.slotCount
                conference.schedule validation = .error refusal ∧
              conference.startSearch validation = (.error refusal, conference)) ∨
          ∃ snapshot,
            Snapshot.take conference.ledger conference.locked conference.timetable.slotCount
                conference.schedule validation = .ok snapshot ∧
              conference.startSearch validation =
                (.ok snapshot,
                  { conference with
                    state := {
                      conference.state with
                      isRunning := true
                      changedSinceSnapshot := false } })) := by
  unfold startSearch
  cases hrunning : conference.state.isRunning with
  | true => exact .inl ⟨rfl, rfl⟩
  | false =>
      refine .inr ⟨rfl, ?_⟩
      cases htake : Snapshot.take conference.ledger conference.locked
          conference.timetable.slotCount conference.schedule validation with
      | error refusal => exact .inl ⟨refusal, rfl, rfl⟩
      | ok snapshot => exact .inr ⟨snapshot, rfl, by simp [RunState.started, hrunning]⟩

theorem startSearch_eq_ok
    {validation : Validation} {snapshot : Snapshot}
    (hstart : conference.startSearch validation = (.ok snapshot, after)) :
    conference.state.isRunning = false ∧
      Snapshot.take conference.ledger conference.locked conference.timetable.slotCount
        conference.schedule validation = .ok snapshot ∧
      after = { conference with
        state := { conference.state with isRunning := true, changedSinceSnapshot := false } } := by
  rcases conference.startSearch_cases validation with
    ⟨_, hfails⟩ | ⟨hidle, ⟨refusal, _, hfails⟩ | ⟨taken, htake, hsucceeds⟩⟩
  · rw [hfails] at hstart
    cases hstart
  · rw [hfails] at hstart
    cases hstart
  · rw [hsucceeds] at hstart
    obtain ⟨hsnapshot, hafter⟩ := Prod.mk.inj hstart
    exact ⟨hidle, Except.ok.inj hsnapshot ▸ htake, hafter.symm⟩

theorem startSearch_eq_error
    {validation : Validation} {refusal : Refusal}
    (hstart : conference.startSearch validation = (.error refusal, after)) :
    after = conference := by
  rcases conference.startSearch_cases validation with
    ⟨_, hfails⟩ | ⟨_, ⟨_, _, hfails⟩ | ⟨_, _, hsucceeds⟩⟩
  · rw [hfails] at hstart
    exact (Prod.mk.inj hstart).2.symm
  · rw [hfails] at hstart
    exact (Prod.mk.inj hstart).2.symm
  · rw [hsucceeds] at hstart
    cases hstart

/-! ## Committing a schedule -/

theorem lockedSinceSnapshot_eq_none
    {schedule : Schedule} (hnone : conference.lockedSinceSnapshot schedule = none) {index : Nat}
    (hlocked : conference.locked.contains index = true)
    (hopen : schedule.isLocked index = false) :
    listedAt (some schedule) index = listedAt conference.schedule index := by
  unfold lockedSinceSnapshot at hnone
  have hsame := List.find?_eq_none.1 hnone index ((SlotSet.mem_toList_iff _ _).2 hlocked)
  simpa [hopen] using hsame

theorem lockedSinceSnapshot_eq_some
    {schedule : Schedule} {index : Nat}
    (hsome : conference.lockedSinceSnapshot schedule = some index) :
    conference.locked.contains index = true ∧ schedule.isLocked index = false ∧
      listedAt (some schedule) index ≠ listedAt conference.schedule index := by
  unfold lockedSinceSnapshot at hsome
  have hlocked := (SlotSet.mem_toList_iff _ _).1 (List.mem_of_find?_eq_some hsome)
  have hchanged := List.find?_some hsome
  simp only [Bool.and_eq_true, Bool.not_eq_true', decide_eq_true_eq] at hchanged
  exact ⟨hlocked, hchanged⟩

theorem commit_cases (conference : Conference) (schedule : Schedule) :
    (∃ index, conference.lockedSinceSnapshot schedule = some index ∧
        conference.commit schedule =
          (.error (.inconsistent (.lockedSlotChanged index)), conference.abortSearch)) ∨
      conference.lockedSinceSnapshot schedule = none ∧
        ((∃ cause, (conference.timetable.place schedule conference.ledger).1 = .error cause ∧
            conference.commit schedule =
              (.error (.inconsistent cause), conference.abortSearch)) ∨
          (conference.timetable.place schedule conference.ledger).1 = .ok () ∧
            conference.commit schedule =
              (.ok (),
                { conference with
                  schedule := some schedule
                  timetable :=
                    (conference.timetable.place schedule conference.ledger).2.withLocks
                      conference.locked
                  state := conference.state.succeeded })) := by
  unfold commit
  cases hsince : conference.lockedSinceSnapshot schedule with
  | some index => exact .inl ⟨index, rfl, rfl⟩
  | none =>
      refine .inr ⟨rfl, ?_⟩
      cases hplace : conference.timetable.place schedule conference.ledger with
      | mk answer timetable =>
          cases answer with
          | error cause => exact .inl ⟨cause, rfl, rfl⟩
          | ok => exact .inr ⟨rfl, rfl⟩

theorem commit_eq_ok
    {schedule : Schedule} (hcommit : conference.commit schedule = (.ok (), after)) :
    conference.lockedSinceSnapshot schedule = none ∧
      after = { conference with
        schedule := some schedule
        timetable :=
          (conference.timetable.place schedule conference.ledger).2.withLocks conference.locked
        state := conference.state.succeeded } := by
  rcases conference.commit_cases schedule with
    ⟨index, _, hfails⟩ | ⟨hunchanged, ⟨cause, _, hfails⟩ | ⟨_, hsucceeds⟩⟩
  · rw [hfails] at hcommit
    cases hcommit
  · rw [hfails] at hcommit
    cases hcommit
  · rw [hsucceeds] at hcommit
    exact ⟨hunchanged, (Prod.mk.inj hcommit).2.symm⟩

theorem commit_eq_error
    {schedule : Schedule} {refusal : Refusal}
    (hcommit : conference.commit schedule = (.error refusal, after)) :
    after = conference.abortSearch ∧
      ((∃ index, conference.lockedSinceSnapshot schedule = some index ∧
          refusal = .inconsistent (.lockedSlotChanged index)) ∨
        ∃ cause, (conference.timetable.place schedule conference.ledger).1 = .error cause ∧
          refusal = .inconsistent cause) := by
  rcases conference.commit_cases schedule with
    ⟨index, hchanged, hfails⟩ | ⟨_, ⟨cause, hplace, hfails⟩ | ⟨_, hsucceeds⟩⟩
  · rw [hfails] at hcommit
    obtain ⟨hrefusal, hafter⟩ := Prod.mk.inj hcommit
    exact ⟨hafter.symm, .inl ⟨index, hchanged, (Except.error.inj hrefusal).symm⟩⟩
  · rw [hfails] at hcommit
    obtain ⟨hrefusal, hafter⟩ := Prod.mk.inj hcommit
    exact ⟨hafter.symm, .inr ⟨cause, hplace, (Except.error.inj hrefusal).symm⟩⟩
  · rw [hsucceeds] at hcommit
    cases hcommit

end Conference

end Unconference
