import Unconference.Proofs.Timetable.Outline

/-!
# Sessions of a timetable

The slots that are not breaks are the sessions, counted through all days.  Showing a schedule and
marking the locked slots walk through the days in two passes of their own, each with its own
counter; both passes agree with the count, and neither touches a break.
-/

namespace Unconference

@[simp] theorem ShownDiscussion.id_locatedAt
    (discussion : ShownDiscussion) (location : Option Location) :
    (discussion.locatedAt location).id = discussion.id := by
  cases location <;> rfl

namespace Timetable

def slots (timetable : Timetable) : List TimetableSlot := timetable.days.flatMap (·.slots)

/-- The slots that hold discussions, in calendar order. -/
def sessions (timetable : Timetable) : List TimetableSlot := timetable.slots.filter (!·.isBreak)

def breaks (timetable : Timetable) : List TimetableSlot := timetable.slots.filter (·.isBreak)

theorem length_sessions (timetable : Timetable) :
    timetable.sessions.length = timetable.slotCount := List.countP_eq_length_filter.symm

/-! ## Showing -/

theorem fillSlots_append
    (early late : List TimetableSlot) (shown : List (List ShownDiscussion)) :
    (fillSlots (early ++ late) shown).1 =
      (fillSlots early shown).1 ++ (fillSlots late (fillSlots early shown).2).1 := by
  induction early generalizing shown with
  | nil => rfl
  | cons slot rest ih =>
      simp only [List.cons_append, fillSlots]
      by_cases hbreak : slot.isBreak = true <;> simp [hbreak, ih]

theorem slots_fillDays (days : List Day) (shown : List (List ShownDiscussion)) :
    (fillDays days shown).flatMap (·.slots) =
      (fillSlots (days.flatMap (·.slots)) shown).1 := by
  induction days generalizing shown with
  | nil => rfl
  | cons day rest ih => simp [fillDays, fillSlots_append, ih]

theorem filter_isBreak_fillSlots
    (slots : List TimetableSlot) (shown : List (List ShownDiscussion)) :
    (fillSlots slots shown).1.filter (·.isBreak) = slots.filter (·.isBreak) := by
  induction slots generalizing shown with
  | nil => rfl
  | cons slot rest ih =>
      simp only [fillSlots]
      by_cases hbreak : slot.isBreak = true <;> simp [hbreak, ih]

/-- The sessions get the lists one by one. -/
theorem discussions_fillSlots
    {slots : List TimetableSlot} {shown : List (List ShownDiscussion)}
    (hlength : shown.length = (slots.filter (!·.isBreak)).length) :
    ((fillSlots slots shown).1.filter (!·.isBreak)).map (·.discussions) = shown := by
  induction slots generalizing shown with
  | nil => exact (List.length_eq_zero_iff.1 hlength).symm
  | cons slot rest ih =>
      simp only [fillSlots]
      by_cases hbreak : slot.isBreak = true
      · simp only [hbreak, if_true, Bool.not_true, Bool.false_eq_true, not_false_iff,
          List.filter_cons_of_neg]
        exact ih (by simpa [hbreak] using hlength)
      · cases shown with
        | nil => simp [hbreak] at hlength
        | cons first others =>
            have hrest : others.length = (rest.filter (!·.isBreak)).length := by
              simpa [hbreak] using hlength
            simp [hbreak, ih hrest]

/-! ## Marking -/

theorem lockSlots_append (locked : SlotSet) (index : Nat) (early late : List TimetableSlot) :
    (lockSlots locked index (early ++ late)).1 =
      (lockSlots locked index early).1 ++
        (lockSlots locked (lockSlots locked index early).2 late).1 := by
  induction early generalizing index with
  | nil => rfl
  | cons slot rest ih =>
      simp only [List.cons_append, lockSlots]
      by_cases hbreak : slot.isBreak = true <;> simp [hbreak, ih]

theorem slots_lockDays (locked : SlotSet) (index : Nat) (days : List Day) :
    (lockDays locked index days).flatMap (·.slots) =
      (lockSlots locked index (days.flatMap (·.slots))).1 := by
  induction days generalizing index with
  | nil => rfl
  | cons day rest ih => simp [lockDays, lockSlots_append, ih]

theorem filter_isBreak_lockSlots
    (locked : SlotSet) (index : Nat) (slots : List TimetableSlot) :
    (lockSlots locked index slots).1.filter (·.isBreak) = slots.filter (·.isBreak) := by
  induction slots generalizing index with
  | nil => rfl
  | cons slot rest ih =>
      simp only [lockSlots]
      by_cases hbreak : slot.isBreak = true <;> simp [hbreak, ih]

theorem discussions_lockSlots
    (locked : SlotSet) (index : Nat) (slots : List TimetableSlot) :
    ((lockSlots locked index slots).1.filter (!·.isBreak)).map (·.discussions) =
      (slots.filter (!·.isBreak)).map (·.discussions) := by
  induction slots generalizing index with
  | nil => rfl
  | cons slot rest ih =>
      simp only [lockSlots]
      by_cases hbreak : slot.isBreak = true <;> simp [hbreak, ih]

/-- The sessions are marked by their number, counted from `index` on. -/
theorem isLocked_lockSlots
    (locked : SlotSet) (index : Nat) (slots : List TimetableSlot) :
    ((lockSlots locked index slots).1.filter (!·.isBreak)).map (·.isLocked) =
      (List.range' index (slots.filter (!·.isBreak)).length).map locked.contains := by
  induction slots generalizing index with
  | nil => rfl
  | cons slot rest ih =>
      simp only [lockSlots]
      by_cases hbreak : slot.isBreak = true <;> simp [hbreak, ih, List.range'_succ]

theorem isFinal_lockDays
    {locked : SlotSet} {index : Nat} {days : List Day} {day : Day}
    (hmem : day ∈ lockDays locked index days) :
    day.isFinal = day.slots.all fun slot => slot.isBreak || slot.isLocked := by
  induction days generalizing index with
  | nil => cases hmem
  | cons first rest ih =>
      rcases List.mem_cons.1 hmem with rfl | hrest
      · rfl
      · exact ih hrest

/-! ## The whole timetable -/

theorem breaks_withLocks (timetable : Timetable) (locked : SlotSet) :
    (timetable.withLocks locked).breaks = timetable.breaks := by
  simp only [breaks, slots, withLocks, slots_lockDays, filter_isBreak_lockSlots]

theorem discussions_withLocks (timetable : Timetable) (locked : SlotSet) :
    (timetable.withLocks locked).sessions.map (·.discussions) =
      timetable.sessions.map (·.discussions) := by
  simp only [sessions, slots, withLocks, slots_lockDays, discussions_lockSlots]

theorem isLocked_withLocks (timetable : Timetable) (locked : SlotSet) :
    (timetable.withLocks locked).sessions.map (·.isLocked) =
      (List.range timetable.slotCount).map locked.contains := by
  rw [← length_sessions, List.range_eq_range']
  simp only [sessions, slots, withLocks, slots_lockDays, isLocked_lockSlots]

theorem breaks_place (timetable : Timetable) (schedule : Schedule) (ledger : Ledger) :
    (timetable.place schedule ledger).2.breaks = timetable.breaks := by
  by_cases hplace : (timetable.place schedule ledger).1 = .ok ()
  · simp only [place_of_eq_ok hplace, breaks, slots, slots_fillDays, filter_isBreak_fillSlots]
  · rw [place_snd_of_ne_ok hplace]

theorem discussions_place
    {timetable : Timetable} {schedule : Schedule} {ledger : Ledger}
    (hplace : (timetable.place schedule ledger).1 = .ok ()) :
    schedule.size = timetable.slotCount ∧
      (timetable.place schedule ledger).2.sessions.map (·.discussions) =
        schedule.slots.map (timetable.shownIn ledger) := by
  have hsize := (place_eq_ok_iff.1 hplace).1
  refine ⟨hsize, ?_⟩
  have hlength : (schedule.slots.map (timetable.shownIn ledger)).length =
      (timetable.slots.filter (!·.isBreak)).length := by
    rw [List.length_map]
    exact hsize.trans timetable.length_sessions.symm
  simp only [place_of_eq_ok hplace, sessions, slots, slots_fillDays]
  exact discussions_fillSlots hlength

/-! ## What a slot shows -/

/-- What a slot shows depends on the locations of the timetable and on nothing else of it. -/
theorem shownIn_congr {timetable other : Timetable}
    (hlocations : timetable.locations = other.locations) :
    timetable.shownIn = other.shownIn := by
  funext ledger slot
  simp only [shownIn, locationAt, places, hlocations]

theorem ids_shown (ledger : Ledger) (slot : Slot) (discussions : List DiscussionId) :
    (discussions.filterMap (shown? ledger slot)).map (·.id) =
      discussions.filter fun discussion => (ledger.discussion? discussion).isSome := by
  induction discussions with
  | nil => rfl
  | cons discussion rest ih =>
      cases hrecord : ledger.discussion? discussion <;> simp [shown?, hrecord, ih]

/-- Handing out locations changes nothing that can be seen without them. -/
theorem map_located {α : Type} {view : ShownDiscussion → α}
    (hview : ∀ discussion location, view (discussion.locatedAt location) = view discussion)
    (timetable : Timetable) (discussions : List ShownDiscussion) :
    (discussions.mapIdx fun position discussion =>
        discussion.locatedAt (timetable.locationAt position)).map view =
      discussions.map view := by
  apply List.ext_getElem?
  intro position
  simp [Function.comp_def, hview]

/-- A slot shows its discussions that the ledger knows, in another order. -/
theorem ids_shownIn (timetable : Timetable) (ledger : Ledger) (slot : Slot) :
    ((timetable.shownIn ledger slot).map (·.id)).Perm
      (slot.discussions.filter fun discussion => (ledger.discussion? discussion).isSome) := by
  rw [← ids_shown ledger slot, shownIn, map_located ShownDiscussion.id_locatedAt]
  exact (List.mergeSort_perm _ _).map _

end Timetable

end Unconference
