import Unconference.Proofs.Conference.Alignment
import Unconference.Proofs.Conference.Refusals
import Unconference.Proofs.Snapshot

/-!
# Operations that fail

An operation that fails leaves the conference as it was, calendar and flags included; only a commit
that fails ends the search it came from.  What keeps a search from starting is decided by three
questions, asked in this order: whether another one runs, whether a discussion awaits moderation,
and whether any slot is left to fill.
-/

namespace Unconference

namespace Conference

variable {timetable : Timetable} {conference after : Conference} {committed : Option Ledger}

/-! ## What keeps a search from starting -/

/-- Some session of the calendar is not locked. -/
def HasOpenSlot (conference : Conference) : Prop :=
  ∃ index, index < conference.timetable.slotCount ∧ conference.locked.contains index = false

theorem covers_eq_false_iff (conference : Conference) :
    conference.locked.covers conference.timetable.slotCount = false ↔
      conference.HasOpenSlot := by
  rw [← Bool.not_eq_true, SlotSet.covers_iff]
  simp [HasOpenSlot]

theorem startSearch_of_running
    (hrunning : conference.state.isRunning = true) (validation : Validation) :
    conference.startSearch validation = (.error .searchInProgress, conference) :=
  if_pos hrunning

theorem startSearch_of_refused
    (hidle : conference.state.isRunning = false) {validation : Validation} {refusal : Refusal}
    (htake : Snapshot.take conference.ledger conference.locked conference.timetable.slotCount
      conference.schedule validation = .error refusal) :
    conference.startSearch validation = (.error refusal, conference) := by
  simp [startSearch, hidle, htake]

theorem startSearch_of_moderated
    (hidle : conference.state.isRunning = false) (hmoderated : ¬ conference.ledger.AllPublic)
    (validation : Validation) :
    conference.startSearch validation =
      (.error (.moderatedDiscussions conference.ledger.moderated), conference) :=
  startSearch_of_refused hidle (Snapshot.take_of_moderated hmoderated _ _ _ _)

theorem startSearch_of_full
    (hidle : conference.state.isRunning = false) (hpublic : conference.ledger.AllPublic)
    (hfull : ¬ conference.HasOpenSlot) (validation : Validation) :
    conference.startSearch validation = (.error .allSlotsLocked, conference) := by
  rw [← covers_eq_false_iff, Bool.not_eq_false] at hfull
  exact startSearch_of_refused hidle (Snapshot.take_of_covered hpublic hfull _ _)

/-- The three questions are all that a search has to pass. -/
theorem startSearch_ok_iff
    (hcoherent : conference.ledger.Coherent) (validation : Validation) :
    (∃ snapshot after, conference.startSearch validation = (.ok snapshot, after)) ↔
      conference.state.isRunning = false ∧ conference.ledger.AllPublic ∧
        conference.HasOpenSlot := by
  constructor
  · rintro ⟨snapshot, after, hstart⟩
    obtain ⟨hidle, htake, _⟩ := startSearch_eq_ok hstart
    refine ⟨hidle, ?_, ?_⟩
    · by_contra hmoderated
      rw [startSearch_of_moderated hidle hmoderated] at hstart
      cases hstart
    · by_contra hfull
      by_cases hpublic : conference.ledger.AllPublic
      · rw [startSearch_of_full hidle hpublic hfull] at hstart
        cases hstart
      · rw [startSearch_of_moderated hidle hpublic] at hstart
        cases hstart
  · rintro ⟨hidle, hpublic, hopen⟩
    obtain ⟨snapshot, htake⟩ := Snapshot.take_of_open hcoherent hpublic
      (conference.covers_eq_false_iff.2 hopen) conference.schedule validation
    rcases conference.startSearch_cases validation with
      ⟨hrunning, _⟩ | ⟨_, ⟨refusal, hrefused, _⟩ | ⟨taken, _, hstart⟩⟩
    · rw [hidle] at hrunning
      cases hrunning
    · rw [htake] at hrefused
      cases hrefused
    · exact ⟨taken, _, hstart⟩

theorem startSearch_searchInProgress_iff (conference : Conference) (validation : Validation) :
    (conference.startSearch validation).1 = .error .searchInProgress ↔
      conference.state.isRunning = true := by
  rcases conference.startSearch_cases validation with
    ⟨hrunning, hstart⟩ | ⟨hidle, ⟨refusal, htake, hstart⟩ | ⟨snapshot, _, hstart⟩⟩
  · simp [hrunning, hstart]
  · have hother : refusal ≠ .searchInProgress := fun h =>
      Snapshot.take_ne_searchInProgress _ _ _ _ _ (h ▸ htake)
    simp [hidle, hstart, hother]
  · simp [hidle, hstart]

/-! ## What a commit refuses -/

/-- Why a commit fails: it would change a slot locked since, or the calendar cannot show it. -/
theorem refusal_of_commit
    {schedule : Schedule} {refusal : Refusal}
    (hcommit : conference.commit schedule = (.error refusal, after)) :
    (∃ index, refusal = .inconsistent (.lockedSlotChanged index) ∧
        conference.locked.contains index = true ∧ schedule.isLocked index = false ∧
          listedAt (some schedule) index ≠ listedAt conference.schedule index) ∨
      (refusal =
          .inconsistent (.slotCountMismatch schedule.size conference.timetable.slotCount) ∧
        schedule.size ≠ conference.timetable.slotCount) ∨
      refusal = .inconsistent .catchAllLocation ∧ conference.timetable.hasCatchAll = false := by
  obtain ⟨_, ⟨index, hchanged, rfl⟩ | ⟨cause, hplace, rfl⟩⟩ := commit_eq_error hcommit
  · exact .inl ⟨index, rfl, lockedSinceSnapshot_eq_some hchanged⟩
  · rcases Timetable.cause_of_place_eq_error hplace with
      ⟨hsize, rfl⟩ | ⟨_, rfl, hcatchAll⟩
    · exact .inr (.inl ⟨rfl, hsize⟩)
    · exact .inr (.inr ⟨rfl, hcatchAll⟩)

/-! ## All operations -/

theorem Settles.eq_of_error
    {α : Type} {outcome : Except Refusal α × Conference} (hsettles : conference.Settles outcome)
    {refusal : Refusal} (hrefused : outcome = (.error refusal, after)) : after = conference := by
  subst outcome
  rcases hsettles with ⟨_, hsame⟩ | ⟨_, hgranted, _⟩
  · exact (Prod.mk.inj hsame).2
  · cases hgranted

/-- Whatever is done and whatever is committed, the books are in order. -/
theorem Reached.reachable_ledger (hreached : Reached timetable conference committed) :
    conference.ledger.Reachable := by
  induction hreached with
  | new => exact .empty
  | mutate mutation _ ih => exact reachable_ledger_mutated ih mutation
  | @startSearch conference _ validation _ ih =>
      rcases conference.startSearch_cases validation with
        ⟨_, hstart⟩ | ⟨_, ⟨_, _, hstart⟩ | ⟨_, _, hstart⟩⟩ <;> rw [hstart] <;> exact ih
  | abortSearch _ ih => exact ih
  | commit _ hcommit ih =>
      obtain ⟨_, rfl⟩ := commit_eq_ok hcommit
      exact ih
  | refuse _ hcommit ih =>
      obtain ⟨rfl, _⟩ := commit_eq_error hcommit
      exact ih

/-- Nothing that fails leaves a trace, but that a failed commit ends its search.  A commit that
succeeds touches neither the ledger nor the locks.  And a search starts exactly if none is running,
every discussion is public and some session is not locked; the first of these that does not hold is
what the refusal says. -/
theorem failures_leave_no_trace
    {timetable : Timetable} {conference : Conference} {committed : Option Ledger}
    (hreached : Reached timetable conference committed) :
    (∀ owner title isPublic refusal after,
      conference.addDiscussion owner title isPublic = (.error refusal, after) →
        after = conference) ∧
    (∀ user discussion value refusal after,
      conference.setInterest user discussion value = (.error refusal, after) →
        after = conference) ∧
    (∀ discussion isPublic refusal after,
      conference.setPublic discussion isPublic = (.error refusal, after) → after = conference) ∧
    (∀ discussion possibleSlots refusal after,
      conference.setPossibleSlots discussion possibleSlots = (.error refusal, after) →
        after = conference) ∧
    (∀ schedule refusal after, conference.commit schedule = (.error refusal, after) →
      after = { conference with state := { conference.state with isRunning := false } } ∧
      ((∃ index, refusal = .inconsistent (.lockedSlotChanged index) ∧
          conference.locked.contains index = true ∧ schedule.isLocked index = false ∧
            listedAt (some schedule) index ≠ listedAt conference.schedule index) ∨
        (refusal =
            .inconsistent (.slotCountMismatch schedule.size conference.timetable.slotCount) ∧
          schedule.size ≠ conference.timetable.slotCount) ∨
        refusal = .inconsistent .catchAllLocation ∧
          conference.timetable.hasCatchAll = false)) ∧
    (∀ schedule after, conference.commit schedule = (.ok (), after) →
      after.ledger = conference.ledger ∧ after.locked = conference.locked) ∧
    ∀ validation,
      (∀ refusal after, conference.startSearch validation = (.error refusal, after) →
        after = conference) ∧
      ((∃ snapshot after, conference.startSearch validation = (.ok snapshot, after)) ↔
        conference.state.isRunning = false ∧ conference.ledger.AllPublic ∧
          conference.HasOpenSlot) ∧
      (conference.state.isRunning = true →
        conference.startSearch validation = (.error .searchInProgress, conference)) ∧
      (conference.state.isRunning = false → ¬ conference.ledger.AllPublic →
        conference.startSearch validation =
          (.error (.moderatedDiscussions conference.ledger.moderated), conference)) ∧
      (conference.state.isRunning = false → conference.ledger.AllPublic →
        ¬ conference.HasOpenSlot →
          conference.startSearch validation = (.error .allSlotsLocked, conference)) := by
  have hanswered := conference.ledger.answered
  refine ⟨?_, ?_, ?_, ?_, ?_, ?_, ?_⟩
  · intro owner title isPublic refusal after hrefused
    exact (settles_withLedger (hanswered (.addDiscussion ..))).eq_of_error hrefused
  · intro user discussion value refusal after hrefused
    exact (settles_withLedger (hanswered (.setInterest user discussion value))).eq_of_error
      hrefused
  · intro discussion isPublic refusal after hrefused
    exact (settles_withLedger (hanswered (.setPublic discussion isPublic))).eq_of_error hrefused
  · intro discussion possibleSlots refusal after hrefused
    exact (settles_withLedger (hanswered (.setPossibleSlots discussion possibleSlots))).eq_of_error
      hrefused
  · intro schedule refusal after hcommit
    exact ⟨(commit_eq_error hcommit).1, refusal_of_commit hcommit⟩
  · intro schedule after hcommit
    obtain ⟨_, rfl⟩ := commit_eq_ok hcommit
    exact ⟨rfl, rfl⟩
  · intro validation
    refine ⟨fun refusal after => startSearch_eq_error, ?_, ?_, ?_, ?_⟩
    · exact startSearch_ok_iff hreached.reachable_ledger.coherent validation
    · exact fun hrunning => startSearch_of_running hrunning validation
    · exact fun hidle hmoderated => startSearch_of_moderated hidle hmoderated validation
    · exact fun hidle hpublic hfull => startSearch_of_full hidle hpublic hfull validation

/-- The weekend with a schedule, while a search for a better one runs. -/
def busyWeekend : Conference := ((planned.commit strangeSchedule).2.startSearch .strict).2

theorem failures_leave_no_trace_on_busyWeekend :
    Reached weekend busyWeekend (some planned.ledger) ∧
      busyWeekend.setInterest ⟨0⟩ ⟨7⟩ 50 = (.error (.discussionNotFound ⟨7⟩), busyWeekend) ∧
      busyWeekend.startSearch .strict = (.error .searchInProgress, busyWeekend) ∧
      ∃ after,
        busyWeekend.commit { locked := SlotSet.ofList [2] } =
            (.error (.inconsistent (.slotCountMismatch 0 3)), after) ∧
          busyWeekend.commit {} = (.error (.inconsistent (.lockedSlotChanged 2)), after) ∧
            after.schedule = some strangeSchedule ∧
              ∃ snapshot later, after.startSearch .strict = (.ok snapshot, later) := by
  have hplanned : Reached weekend planned none := Reached.new.mutateAll _
  have hcommit : planned.commit strangeSchedule =
      (.ok (), (planned.commit strangeSchedule).2) := Prod.ext (by decide) rfl
  have hbusy : Reached weekend busyWeekend (some planned.ledger) :=
    (hplanned.commit hcommit).startSearch .strict
  obtain ⟨_, hinterest, _, _, hfails, _, hstarts⟩ := failures_leave_no_trace hbusy
  have hmistake : busyWeekend.setInterest ⟨0⟩ ⟨7⟩ 50 =
      (.error (.discussionNotFound ⟨7⟩), (busyWeekend.setInterest ⟨0⟩ ⟨7⟩ 50).2) :=
    Prod.ext (by decide) rfl
  have hshort : busyWeekend.commit { locked := SlotSet.ofList [2] } =
      (.error (.inconsistent (.slotCountMismatch 0 3)),
        (busyWeekend.commit { locked := SlotSet.ofList [2] }).2) :=
    Prod.ext (by decide) rfl
  have hchanged : busyWeekend.commit {} =
      (.error (.inconsistent (.lockedSlotChanged 2)), (busyWeekend.commit {}).2) :=
    Prod.ext (by decide) rfl
  have hafterShort := (hfails _ _ _ hshort).1
  have hafterChanged := (hfails _ _ _ hchanged).1
  -- the failed commit has ended the search, so the next one starts
  have hnext := (failures_leave_no_trace (hbusy.refuse hshort)).2.2.2.2.2.2 .strict
  refine ⟨hbusy, ?_, (hstarts .strict).2.2.1 (by decide), _, hshort, ?_, ?_, ?_⟩
  · rw [hmistake, hinterest _ _ _ _ _ hmistake]
  · rw [hchanged, hafterChanged, hafterShort]
  · rw [hafterShort]
    decide
  · refine hnext.2.1.2 ⟨?_, ?_, 0, ?_, ?_⟩
    · rw [hafterShort]
    · rw [hafterShort, ← Ledger.moderated_eq_nil_iff]
      decide
    · rw [hafterShort]
      decide
    · rw [hafterShort]
      decide

end Conference

end Unconference
