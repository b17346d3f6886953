import Unconference.Proofs.Conference.Live
import Unconference.Proofs.Slot.Objective
import Unconference.Proofs.Timetable.Sessions

/-!
# Calendar, schedule and locks

A conference keeps its schedule and its locks by slot number, and shows both on a calendar with
breaks.  The two stay aligned from a blank calendar on, whatever is done to the conference: session
number `k` shows slot number `k` of the committed schedule and is marked exactly if `k` is locked.

A commit shows what the ledger of that moment knows, so the relation below remembers that ledger.
-/

namespace Unconference

/-- A calendar on which nothing is shown and nothing is marked. -/
def Timetable.blank (days : List (String × List (String × Bool))) (locations : List Location) :
    Timetable where
  days := days.map fun (name, slots) =>
    { name, slots := slots.map fun (time, isBreak) => { time, isBreak } }
  locations := locations

namespace Conference

/-- The conferences that a new one comes to by any operations, each with the ledger of the last
commit.  The committed schedule need not come from a search. -/
inductive Reached (timetable : Timetable) : Conference → Option Ledger → Prop
  | new : Reached timetable (.new timetable) none
  | mutate {conference : Conference} {committed : Option Ledger} (mutation : Mutation) :
      Reached timetable conference committed →
      Reached timetable (conference.mutated mutation) committed
  | startSearch {conference : Conference} {committed : Option Ledger}
      (validation : Validation) :
      Reached timetable conference committed →
      Reached timetable (conference.startSearch validation).2 committed
  | abortSearch {conference : Conference} {committed : Option Ledger} :
      Reached timetable conference committed → Reached timetable conference.abortSearch committed
  | commit {conference after : Conference} {committed : Option Ledger} {schedule : Schedule} :
      Reached timetable conference committed →
      conference.commit schedule = (.ok (), after) →
      Reached timetable after (some conference.ledger)
  | refuse {conference after : Conference} {committed : Option Ledger} {schedule : Schedule}
      {refusal : Refusal} :
      Reached timetable conference committed →
      conference.commit schedule = (.error refusal, after) → Reached timetable after committed

/-! ## The invariant -/

structure Aligned (timetable : Timetable) (conference : Conference)
    (committed : Option Ledger) : Prop where
  outline : conference.timetable.outline = timetable.outline
  breaks : conference.timetable.breaks = timetable.breaks
  marks : conference.timetable.sessions.map (·.isLocked) =
    (List.range timetable.slotCount).map conference.locked.contains
  final : ∀ day ∈ conference.timetable.days, day.slots.any (!·.isBreak) = true →
    day.isFinal = day.slots.all fun slot => slot.isBreak || slot.isLocked
  unshown : committed = none → conference.schedule = none ∧
    ∀ shown ∈ conference.timetable.sessions.map (·.discussions), shown = []
  shown : ∀ ledger, committed = some ledger →
    ∃ schedule, conference.schedule = some schedule ∧ schedule.size = timetable.slotCount ∧
      conference.timetable.sessions.map (·.discussions) =
        schedule.slots.map (timetable.shownIn ledger)

variable {timetable : Timetable} {conference after : Conference} {committed : Option Ledger}

theorem Aligned.slotCount (haligned : Aligned timetable conference committed) :
    conference.timetable.slotCount = timetable.slotCount := by
  rw [Timetable.slotCount_eq_of_outline, haligned.outline, ← Timetable.slotCount_eq_of_outline]

theorem Aligned.of_same
    (haligned : Aligned timetable conference committed)
    (htimetable : after.timetable = conference.timetable)
    (hlocked : after.locked = conference.locked)
    (hschedule : after.schedule = conference.schedule) : Aligned timetable after committed := by
  constructor
  · rw [htimetable]
    exact haligned.outline
  · rw [htimetable]
    exact haligned.breaks
  · rw [htimetable, hlocked]
    exact haligned.marks
  · rw [htimetable]
    exact haligned.final
  · rw [htimetable, hschedule]
    exact haligned.unshown
  · rw [htimetable, hschedule]
    exact haligned.shown

theorem Aligned.afterLock
    (haligned : Aligned timetable conference committed) (locked : SlotSet) :
    Aligned timetable (conference.setLockedSlots locked) committed := by
  constructor
  · exact (Timetable.outline_withLocks _ locked).trans haligned.outline
  · exact (Timetable.breaks_withLocks _ locked).trans haligned.breaks
  · rw [← haligned.slotCount]
    exact Timetable.isLocked_withLocks _ locked
  · intro day hmem _
    exact Timetable.isFinal_lockDays hmem
  · rw [setLockedSlots, Timetable.discussions_withLocks]
    exact haligned.unshown
  · rw [setLockedSlots, Timetable.discussions_withLocks]
    exact haligned.shown

theorem place_of_commit_eq_ok
    {schedule : Schedule} (hcommit : conference.commit schedule = (.ok (), after)) :
    (conference.timetable.place schedule conference.ledger).1 = .ok () := by
  rcases conference.commit_cases schedule with
    ⟨index, _, hfails⟩ | ⟨_, ⟨cause, _, hfails⟩ | ⟨hplace, _⟩⟩
  · rw [hfails] at hcommit
    cases hcommit
  · rw [hfails] at hcommit
    cases hcommit
  · exact hplace

theorem Aligned.afterCommit
    (haligned : Aligned timetable conference committed) {schedule : Schedule}
    (hcommit : conference.commit schedule = (.ok (), after)) :
    Aligned timetable after (some conference.ledger) := by
  obtain ⟨hsize, hshown⟩ := Timetable.discussions_place (place_of_commit_eq_ok hcommit)
  obtain ⟨_, rfl⟩ := commit_eq_ok hcommit
  have hlocations : conference.timetable.locations = timetable.locations :=
    congrArg Prod.snd haligned.outline
  constructor
  · rw [Timetable.outline_withLocks, Timetable.outline_place]
    exact haligned.outline
  · rw [Timetable.breaks_withLocks, Timetable.breaks_place]
    exact haligned.breaks
  · rw [Timetable.isLocked_withLocks, Timetable.slotCount_place, haligned.slotCount]
  · intro day hmem _
    exact Timetable.isFinal_lockDays hmem
  · intro hcommitted
    cases hcommitted
  · rintro _ ⟨⟩
    refine ⟨schedule, rfl, hsize.trans haligned.slotCount, ?_⟩
    rw [Timetable.discussions_withLocks, hshown, Timetable.shownIn_congr hlocations]

theorem mutated_cases (conference : Conference) (mutation : Mutation) :
    (∃ locked, conference.mutated mutation = conference.setLockedSlots locked) ∨
      (conference.mutated mutation).timetable = conference.timetable ∧
        (conference.mutated mutation).locked = conference.locked := by
  cases mutation with
  | setLockedSlots locked => exact .inl ⟨locked, rfl⟩
  | addUser name => exact .inr ⟨rfl, rfl⟩
  | addDiscussion | setInterest | setPublic | setPossibleSlots =>
      simp [mutated, addDiscussion, setInterest, setPublic, setPossibleSlots, withLedger_snd]

theorem Aligned.afterMutate
    (haligned : Aligned timetable conference committed) (mutation : Mutation) :
    Aligned timetable (conference.mutated mutation) committed := by
  rcases conference.mutated_cases mutation with ⟨locked, hlock⟩ | ⟨htimetable, hlocked⟩
  · rw [hlock]
    exact haligned.afterLock locked
  · exact haligned.of_same htimetable hlocked (conference.schedule_mutated mutation)

theorem Aligned.afterStart
    (haligned : Aligned timetable conference committed) (validation : Validation) :
    Aligned timetable (conference.startSearch validation).2 committed := by
  cases hstart : conference.startSearch validation with
  | mk answer after =>
      cases answer with
      | error refusal =>
          obtain rfl := startSearch_eq_error hstart
          exact haligned
      | ok snapshot =>
          obtain ⟨_, _, rfl⟩ := startSearch_eq_ok hstart
          exact haligned.of_same rfl rfl rfl

/-! ## Blank calendars -/

section

variable {days : List (String × List (String × Bool))} {locations : List Location}

theorem outline_blank : (Timetable.blank days locations).outline = (days, locations) := by
  simp [Timetable.outline, Timetable.blank, Day.outline, TimetableSlot.outline,
    Function.comp_def]

theorem unmarked_of_mem_blank {day : Day} (hday : day ∈ (Timetable.blank days locations).days) :
    day.isFinal = false ∧
      ∀ slot ∈ day.slots, slot.isLocked = false ∧ slot.discussions = [] := by
  obtain ⟨⟨name, slots⟩, _, rfl⟩ := List.mem_map.1 hday
  refine ⟨rfl, ?_⟩
  intro slot hslot
  obtain ⟨⟨time, isBreak⟩, _, rfl⟩ := List.mem_map.1 hslot
  exact ⟨rfl, rfl⟩

theorem unmarked_of_mem_slots_blank {slot : TimetableSlot}
    (hslot : slot ∈ (Timetable.blank days locations).slots) :
    slot.isLocked = false ∧ slot.discussions = [] := by
  obtain ⟨day, hday, hmem⟩ := List.mem_flatMap.1 hslot
  exact (unmarked_of_mem_blank hday).2 slot hmem

theorem aligned_blank :
    Aligned (Timetable.blank days locations) (.new (.blank days locations)) none := by
  constructor
  · rfl
  · rfl
  · have hmarks : (Timetable.blank days locations).sessions.map (·.isLocked) =
        (Timetable.blank days locations).sessions.map fun _ => false :=
      List.map_congr_left fun slot hslot =>
        (unmarked_of_mem_slots_blank (List.mem_of_mem_filter hslot)).1
    have hnone : (∅ : SlotSet).contains = fun _ => false := funext SlotSet.contains_empty
    rw [Conference.new, hmarks, ← Timetable.length_sessions, hnone]
    simp
  · -- a day with a session is not final, and the session is not marked
    intro day hday hsession
    obtain ⟨hfinal, hunmarked⟩ := unmarked_of_mem_blank hday
    obtain ⟨slot, hslot, hopen⟩ := List.any_eq_true.1 hsession
    have hnot : ¬ (slot.isBreak || slot.isLocked) = true := by
      simpa [(hunmarked slot hslot).1] using hopen
    rw [hfinal]
    exact (List.all_eq_false.2 ⟨slot, hslot, hnot⟩).symm
  · refine fun _ => ⟨rfl, ?_⟩
    intro shown hshown
    obtain ⟨slot, hslot, rfl⟩ := List.mem_map.1 hshown
    exact (unmarked_of_mem_slots_blank (List.mem_of_mem_filter hslot)).2
  · intro ledger hcommitted
    cases hcommitted

theorem Reached.aligned
    (hreached : Reached (.blank days locations) conference committed) :
    Aligned (.blank days locations) conference committed := by
  induction hreached with
  | new => exact aligned_blank
  | mutate mutation _ ih => exact ih.afterMutate mutation
  | startSearch validation _ ih => exact ih.afterStart validation
  | abortSearch _ ih => exact ih.of_same rfl rfl rfl
  | commit _ hcommit ih => exact ih.afterCommit hcommit
  | refuse _ hcommit ih =>
      obtain ⟨rfl, _⟩ := commit_eq_error hcommit
      exact ih.of_same rfl rfl rfl

end

/-- From a blank calendar on, whatever is done and whatever is committed: the calendar keeps its
outline, session `k` shows slot `k` of the committed schedule as far as its ledger knew it and is
marked if and only if `k` is locked, breaks stay empty, and a day is final once its sessions are all
marked. -/
theorem calendar_schedule_and_locks_stay_aligned
    {days : List (String × List (String × Bool))} {locations : List Location}
    {conference : Conference} {committed : Option Ledger}
    (hreached : Reached (.blank days locations) conference committed) :
    conference.timetable.outline = (days, locations) ∧
    (∀ slot ∈ conference.timetable.breaks, slot.discussions = [] ∧ slot.isLocked = false) ∧
    (committed = none → conference.schedule = none ∧
      ∀ session ∈ conference.timetable.sessions, session.discussions = []) ∧
    (∀ ledger, committed = some ledger →
      ∃ schedule, conference.schedule = some schedule ∧
        schedule.size = conference.timetable.sessions.length ∧
        ∀ index session slot, conference.timetable.sessions[index]? = some session →
          schedule.slot? index = some slot →
            (session.discussions.map (·.id)).Perm
              (slot.discussions.filter fun discussion =>
                (ledger.discussion? discussion).isSome) ∧
            (slot.Reachable → (session.discussions.map (·.id)).Nodup)) ∧
    (∀ index session, conference.timetable.sessions[index]? = some session →
      session.isLocked = conference.locked.contains index) ∧
    ∀ day ∈ conference.timetable.days, (∃ slot ∈ day.slots, slot.isBreak = false) →
      (day.isFinal = true ↔
        ∀ slot ∈ day.slots, slot.isBreak = false → slot.isLocked = true) := by
  have haligned := hreached.aligned
  refine ⟨haligned.outline.trans outline_blank, ?_, ?_, ?_, ?_, ?_⟩
  · intro slot hslot
    rw [haligned.breaks] at hslot
    exact (unmarked_of_mem_slots_blank (List.mem_of_mem_filter hslot)).symm
  · intro hcommitted
    obtain ⟨hschedule, hempty⟩ := haligned.unshown hcommitted
    exact ⟨hschedule, fun session hsession => hempty _ (List.mem_map_of_mem hsession)⟩
  · intro ledger hcommitted
    obtain ⟨schedule, hschedule, hsize, hshown⟩ := haligned.shown ledger hcommitted
    refine ⟨schedule, hschedule, ?_, ?_⟩
    · rw [hsize, Timetable.length_sessions, haligned.slotCount]
    · intro index session slot hsession hslot
      have hdiscussions :
          session.discussions = (Timetable.blank days locations).shownIn ledger slot := by
        have hat := congrArg (·[index]?) hshown
        have hslots : schedule.slots[index]? = some slot := hslot
        simpa [hsession, hslots] using hat
      have hperm := Timetable.ids_shownIn (.blank days locations) ledger slot
      rw [hdiscussions]
      refine ⟨hperm, ?_⟩
      intro hreach
      exact hperm.nodup_iff.2 (hreach.wellFormed.nodup.filter _)
  · intro index session hsession
    have hat := congrArg (·[index]?) haligned.marks
    have hlt : index < (Timetable.blank days locations).slotCount := by
      rw [← haligned.slotCount, ← Timetable.length_sessions]
      exact (List.getElem?_eq_some_iff.1 hsession).1
    simpa [hsession, hlt] using hat
  · rintro day hday ⟨slot, hslot, hopen⟩
    have hsession : day.slots.any (!·.isBreak) = true :=
      List.any_eq_true.2 ⟨slot, hslot, by simpa using hopen⟩
    rw [haligned.final day hday hsession, List.all_eq_true]
    simp only [Bool.or_eq_true, or_iff_not_imp_left, Bool.not_eq_true]

theorem Reached.mutateAll
    {timetable : Timetable} {conference : Conference} {committed : Option Ledger}
    (hreached : Reached timetable conference committed) (mutations : List Mutation) :
    Reached timetable (mutations.foldl mutated conference) committed := by
  induction mutations generalizing conference with
  | nil => exact hreached
  | cons mutation rest ih => exact ih (hreached.mutate mutation)

/-! ## A weekend with breaks -/

def weekend : Timetable :=
  .blank [("Friday", [("10:00", false), ("11:00", true), ("12:00", false)]),
      ("Saturday", [("09:00", true), ("10:00", false)])]
    [{ name := "Hall" }, { name := "Garden", isPlace := false }]

/-- Two discussions, and the session on Saturday is locked. -/
def planned : Conference :=
  [.addUser "ada", .addDiscussion ⟨0⟩ "compilers" true, .addDiscussion ⟨0⟩ "databases" true,
    .setInterest ⟨0⟩ ⟨1⟩ 80, .setLockedSlots (SlotSet.ofList [2])].foldl mutated (.new weekend)

/-- A slot with a discussion that nobody knows. -/
def strangeSlot : Slot :=
  (((∅ : Slot).assign planned.ledger ⟨1⟩).1.assign planned.ledger ⟨7⟩).1

def strangeSchedule : Schedule where
  slots := [((∅ : Slot).assign planned.ledger ⟨0⟩).1, ∅, strangeSlot]
  locked := SlotSet.ofList [2]

theorem calendar_stays_aligned_on_weekend :
    ∃ conference, Reached weekend conference (some planned.ledger) ∧
      ∃ session, conference.timetable.sessions[2]? = some session ∧
        session.discussions.map (·.id) = [⟨1⟩] ∧ session.isLocked = true ∧
          conference.timetable.days.map (·.isFinal) = [false, true] := by
  have hplanned : Reached weekend planned none := Reached.new.mutateAll _
  have hcommit : planned.commit strangeSchedule =
      (.ok (), (planned.commit strangeSchedule).2) := Prod.ext (by decide) rfl
  have hreached := hplanned.commit hcommit
  obtain ⟨_, _, _, hshown, hmarked, _⟩ := calendar_schedule_and_locks_stay_aligned hreached
  obtain ⟨schedule, hschedule, hsize, hslots⟩ := hshown _ rfl
  obtain rfl : strangeSchedule = schedule := Option.some.inj hschedule
  have hlt : 2 < (planned.commit strangeSchedule).2.timetable.sessions.length := by
    rw [← hsize]
    decide
  have hsession := List.getElem?_eq_getElem hlt
  refine ⟨_, hreached, _, hsession, ?_, ?_, by decide⟩
  · have hperm := (hslots 2 _ strangeSlot hsession rfl).1
    have hknown : (strangeSlot.discussions.filter fun discussion =>
        (planned.ledger.discussion? discussion).isSome) = [⟨1⟩] := by
      decide
    rw [hknown] at hperm
    exact List.perm_singleton.1 hperm
  · rw [hmarked 2 _ hsession]
    decide

end Conference

end Unconference
