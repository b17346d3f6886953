import Unconference.Timetable

/-!
# The outline of a timetable

Days, times, breaks and locations make up the outline of a timetable.  Showing a schedule and
marking the locked slots change what stands in the slots and leave the outline alone, so the number
of slots that can hold discussions is settled once and for all.

Showing leaves more alone than that: whatever a slot showed before makes no difference, and a
timetable that is cleared of it stays the same.
-/

namespace Unconference

/-- The slot without what it shows.  A break stays as it is. -/
def TimetableSlot.cleared (slot : TimetableSlot) : TimetableSlot :=
  if slot.isBreak then slot else { slot with discussions := [] }

def Day.cleared (day : Day) : Day := { day with slots := day.slots.map TimetableSlot.cleared }

def Timetable.cleared (timetable : Timetable) : Timetable :=
  { timetable with days := timetable.days.map Day.cleared }

def TimetableSlot.outline (slot : TimetableSlot) : String × Bool := (slot.time, slot.isBreak)

def Day.outline (day : Day) : String × List (String × Bool) :=
  (day.name, day.slots.map TimetableSlot.outline)

@[simp] theorem TimetableSlot.isBreak_cleared (slot : TimetableSlot) :
    slot.cleared.isBreak = slot.isBreak := by
  unfold cleared
  split <;> rfl

@[simp] theorem TimetableSlot.outline_cleared (slot : TimetableSlot) :
    slot.cleared.outline = slot.outline := by
  unfold cleared
  split <;> rfl

namespace Timetable

def outline (timetable : Timetable) : List (String × List (String × Bool)) × List Location :=
  (timetable.days.map Day.outline, timetable.locations)

theorem slotCount_eq_of_outline (timetable : Timetable) :
    timetable.slotCount = (timetable.outline.1.flatMap (·.2)).countP (!·.2) := by
  have houtline : timetable.outline.1.flatMap (·.2) =
      (timetable.days.flatMap (·.slots)).map TimetableSlot.outline := by
    simp [outline, List.flatMap_map, List.map_flatMap, Day.outline]
  rw [houtline, List.countP_map]
  rfl

/-- A schedule is refused for its size or for the locations, and then nothing changes, or it is
shown. -/
theorem place_cases (timetable : Timetable) (schedule : Schedule) (ledger : Ledger) :
    (schedule.size ≠ timetable.slotCount ∧
        timetable.place schedule ledger =
          (.error (.slotCountMismatch schedule.size timetable.slotCount), timetable)) ∨
      (schedule.size = timetable.slotCount ∧ timetable.hasCatchAll = false ∧
        timetable.place schedule ledger = (.error .catchAllLocation, timetable)) ∨
      schedule.size = timetable.slotCount ∧ timetable.hasCatchAll = true ∧
        timetable.place schedule ledger =
          (.ok (), { timetable with
            days := fillDays timetable.days (schedule.slots.map (timetable.shownIn ledger)) }) := by
  unfold place
  by_cases hsize : schedule.size = timetable.slotCount
  · rw [if_neg (not_not_intro hsize)]
    cases hcatchAll : timetable.hasCatchAll with
    | false => exact .inr (.inl ⟨hsize, rfl, rfl⟩)
    | true => exact .inr (.inr ⟨hsize, rfl, rfl⟩)
  · rw [if_pos hsize]
    exact .inl ⟨hsize, rfl⟩

theorem place_eq_ok_iff {timetable : Timetable} {schedule : Schedule} {ledger : Ledger} :
    (timetable.place schedule ledger).1 = .ok () ↔
      schedule.size = timetable.slotCount ∧ timetable.hasCatchAll = true := by
  rcases timetable.place_cases schedule ledger with
    ⟨hsize, hplace⟩ | ⟨hsize, hcatchAll, hplace⟩ | ⟨hsize, hcatchAll, hplace⟩
  · simp [hplace, hsize]
  · simp [hplace, hcatchAll]
  · simp [hplace, hsize, hcatchAll]

/-- Whatever was refused changes nothing. -/
theorem place_snd_of_ne_ok {timetable : Timetable} {schedule : Schedule} {ledger : Ledger}
    (hplace : (timetable.place schedule ledger).1 ≠ .ok ()) :
    (timetable.place schedule ledger).2 = timetable := by
  rcases timetable.place_cases schedule ledger with
    ⟨_, hfails⟩ | ⟨_, _, hfails⟩ | ⟨_, _, hsucceeds⟩
  · rw [hfails]
  · rw [hfails]
  · rw [hsucceeds] at hplace
    exact absurd rfl hplace

theorem place_of_eq_ok {timetable : Timetable} {schedule : Schedule} {ledger : Ledger}
    (hplace : (timetable.place schedule ledger).1 = .ok ()) :
    timetable.place schedule ledger =
      (.ok (), { timetable with
        days := fillDays timetable.days (schedule.slots.map (timetable.shownIn ledger)) }) := by
  rcases timetable.place_cases schedule ledger with
    ⟨_, hfails⟩ | ⟨_, _, hfails⟩ | ⟨_, _, hsucceeds⟩
  · rw [hfails] at hplace
    cases hplace
  · rw [hfails] at hplace
    cases hplace
  · exact hsucceeds

theorem map_cleared_fillSlots
    (slots : List TimetableSlot) (shown : List (List ShownDiscussion)) :
    (fillSlots slots shown).1.map TimetableSlot.cleared =
      slots.map TimetableSlot.cleared := by
  induction slots generalizing shown with
  | nil => rfl
  | cons slot rest ih =>
      unfold fillSlots
      by_cases hbreak : slot.isBreak = true <;> simp [hbreak, ih, TimetableSlot.cleared]

theorem map_cleared_fillDays (days : List Day) (shown : List (List ShownDiscussion)) :
    (fillDays days shown).map Day.cleared = days.map Day.cleared := by
  induction days generalizing shown with
  | nil => rfl
  | cons day rest ih => simp [fillDays, Day.cleared, map_cleared_fillSlots, ih]

@[simp] theorem cleared_place
    (timetable : Timetable) (schedule : Schedule) (ledger : Ledger) :
    (timetable.place schedule ledger).2.cleared = timetable.cleared := by
  by_cases hplace : (timetable.place schedule ledger).1 = .ok ()
  · rw [place_of_eq_ok hplace]
    simp [cleared, map_cleared_fillDays]
  · rw [place_snd_of_ne_ok hplace]

@[simp] theorem outline_cleared (timetable : Timetable) :
    timetable.cleared.outline = timetable.outline := by
  simp [outline, cleared, Function.comp_def, Day.outline, Day.cleared]

theorem map_outline_lockSlots
    (locked : SlotSet) (index : Nat) (slots : List TimetableSlot) :
    (lockSlots locked index slots).1.map TimetableSlot.outline =
      slots.map TimetableSlot.outline := by
  induction slots generalizing index with
  | nil => rfl
  | cons slot rest ih =>
      unfold lockSlots
      by_cases hbreak : slot.isBreak = true
      · simp [hbreak, ih]
      · simp [hbreak, ih, TimetableSlot.outline]

theorem map_outline_lockDays (locked : SlotSet) (index : Nat) (days : List Day) :
    (lockDays locked index days).map Day.outline = days.map Day.outline := by
  induction days generalizing index with
  | nil => rfl
  | cons day rest ih => simp [lockDays, Day.outline, map_outline_lockSlots, ih]

@[simp] theorem outline_withLocks (timetable : Timetable) (locked : SlotSet) :
    (timetable.withLocks locked).outline = timetable.outline := by
  simp [withLocks, outline, map_outline_lockDays]

@[simp] theorem outline_place
    (timetable : Timetable) (schedule : Schedule) (ledger : Ledger) :
    (timetable.place schedule ledger).2.outline = timetable.outline := by
  rw [← outline_cleared, cleared_place, outline_cleared]

@[simp] theorem slotCount_withLocks (timetable : Timetable) (locked : SlotSet) :
    (timetable.withLocks locked).slotCount = timetable.slotCount := by
  rw [slotCount_eq_of_outline, outline_withLocks, ← slotCount_eq_of_outline]

@[simp] theorem slotCount_place
    (timetable : Timetable) (schedule : Schedule) (ledger : Ledger) :
    (timetable.place schedule ledger).2.slotCount = timetable.slotCount := by
  rw [slotCount_eq_of_outline, outline_place, ← slotCount_eq_of_outline]

theorem cause_of_place_eq_error
    {timetable : Timetable} {schedule : Schedule} {ledger : Ledger} {cause : Inconsistency}
    (hplace : (timetable.place schedule ledger).1 = .error cause) :
    (schedule.size ≠ timetable.slotCount ∧
        cause = .slotCountMismatch schedule.size timetable.slotCount) ∨
      schedule.size = timetable.slotCount ∧
        cause = .catchAllLocation ∧ timetable.hasCatchAll = false := by
  rcases timetable.place_cases schedule ledger with
    ⟨hsize, hfails⟩ | ⟨hsize, hcatchAll, hfails⟩ | ⟨_, _, hsucceeds⟩
  · rw [hfails] at hplace
    exact .inl ⟨hsize, (Except.error.inj hplace).symm⟩
  · rw [hfails] at hplace
    exact .inr ⟨hsize, (Except.error.inj hplace).symm, hcatchAll⟩
  · rw [hsucceeds] at hplace
    cases hplace

/-- A schedule with as many slots as the calendar is shown unless the last location is missing. -/
theorem catchAllLocation_of_place_eq_error
    {timetable : Timetable} {schedule : Schedule} {ledger : Ledger} {cause : Inconsistency}
    (hsize : schedule.size = timetable.slotCount)
    (hplace : (timetable.place schedule ledger).1 = .error cause) :
    cause = .catchAllLocation ∧ timetable.hasCatchAll = false := by
  rcases cause_of_place_eq_error hplace with ⟨hother, _⟩ | ⟨_, hcatchAll⟩
  · exact absurd hsize hother
  · exact hcatchAll

end Timetable

end Unconference
