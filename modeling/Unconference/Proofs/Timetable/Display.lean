import Unconference.Proofs.Ledger.Bookkeeping
import Unconference.Proofs.Schedule.Scoring
import Unconference.Proofs.Timetable.Sessions

/-!
# What a timetable tells about a schedule

A timetable that shows a schedule shows each of its discussions once, with the score it has there.
Next to it stand the names of everybody interested in it, on one side those who attend it and on the
other those who miss it.  The first two hold whatever the attendance is; for the names it has to be
fresh, since somebody may be seated in a discussion they have no interest in any more.
-/

namespace Unconference

def Ledger.name? (ledger : Ledger) (user : UserId) : Option String :=
  (ledger.user? user).map (·.name)

/-- Nobody is named who is not interested, and nobody interested is named twice or left out. -/
structure ShownDiscussion.Divides (ledger : Ledger) (slot : Slot) (shown : ShownDiscussion)
    (attendees absentees : List UserId) : Prop where
  once : (attendees ++ absentees).Nodup
  interested : ∀ user, user ∈ attendees ++ absentees ↔ 0 < ledger.interest user shown.id
  seated : ∀ user, user ∈ attendees ↔ slot.attending user = some shown.id
  attending : shown.attending.map some = attendees.map ledger.name?
  missing : shown.missing.map some = absentees.map ledger.name?
  count : shown.attendeeCount = attendees.length

/-- What was shown before it got its location. -/
def ShownDiscussion.unlocated (shown : ShownDiscussion) : ShownDiscussion :=
  { shown with location := "" }

@[simp] theorem ShownDiscussion.unlocated_locatedAt
    (shown : ShownDiscussion) (location : Option Location) :
    (shown.locatedAt location).unlocated = shown.unlocated := by
  cases location <;> rfl

/-! ## Who attends and who does not -/

namespace Slot

variable {slot : Slot} {ledger : Ledger} {discussion : DiscussionId}

theorem nodup_missing (slot : Slot) (ledger : Ledger) (discussion : DiscussionId) :
    (slot.missing ledger discussion).Nodup :=
  nodup_of_ascending ((ledger.interested_ascending discussion).filter _)

theorem mem_missing_iff (hledger : ledger.Coherent) (user : UserId) :
    user ∈ slot.missing ledger discussion ↔
      0 < ledger.interest user discussion ∧ slot.attending user ≠ some discussion := by
  unfold missing
  simp [hledger.mem_interested]

end Slot

namespace Timetable

variable {timetable : Timetable} {schedule : Schedule} {ledger : Ledger} {slot : Slot}
  {shown : ShownDiscussion}

theorem map_some_names
    {users : List UserId} (hknown : ∀ user ∈ users, user ∈ ledger.userIds) :
    (names ledger users).map some = users.map ledger.name? := by
  induction users with
  | nil => rfl
  | cons user rest ih =>
      have hrest := ih fun other hmem => hknown other (List.mem_cons_of_mem user hmem)
      have huser := hknown user List.mem_cons_self
      rw [← Ledger.user?_isSome_iff, Option.isSome_iff_exists] at huser
      obtain ⟨record, hrecord⟩ := huser
      have hnames : names ledger (user :: rest) = record.name :: names ledger rest := by
        simp [names, hrecord]
      rw [hnames, List.map_cons, hrest, List.map_cons, Ledger.name?, hrecord]
      rfl

theorem divides_of_shown?
    (hledger : ledger.Coherent) (hfresh : slot.Fresh ledger) {discussion : DiscussionId}
    (hshown : shown? ledger slot discussion = some shown) :
    shown.Divides ledger slot (slot.attendees discussion) (slot.missing ledger discussion) := by
  obtain ⟨record, _, rfl⟩ := Option.map_eq_some_iff.1 hshown
  have hattendees : ∀ user ∈ slot.attendees discussion,
      0 < ledger.interest user discussion := fun user hmem =>
    hfresh.interest_pos ((slot.mem_attendees_iff discussion user).1 hmem)
  have hmissing : ∀ user ∈ slot.missing ledger discussion,
      0 < ledger.interest user discussion := fun user hmem =>
    ((Slot.mem_missing_iff hledger user).1 hmem).1
  have hattending := map_some_names fun user hmem =>
    Ledger.mem_userIds_of_interest_pos (hattendees user hmem)
  constructor
  · apply (slot.nodup_attendees discussion).append (slot.nodup_missing ledger discussion)
    intro user hattends hmisses
    exact ((Slot.mem_missing_iff hledger user).1 hmisses).2
      ((slot.mem_attendees_iff discussion user).1 hattends)
  · intro user
    rw [List.mem_append]
    constructor
    · rintro (hattends | hmisses)
      · exact hattendees user hattends
      · exact hmissing user hmisses
    · intro hpos
      by_cases hseated : slot.attending user = some discussion
      · exact .inl ((slot.mem_attendees_iff discussion user).2 hseated)
      · exact .inr ((Slot.mem_missing_iff hledger user).2 ⟨hpos, hseated⟩)
  · exact slot.mem_attendees_iff discussion
  · exact hattending
  · exact map_some_names fun user hmem =>
      Ledger.mem_userIds_of_interest_pos (hmissing user hmem)
  · simpa using congrArg List.length hattending

/-! ## A slot on display -/

/-- Putting the discussions in order and giving them locations changes nothing else of them. -/
theorem unlocated_shownIn (timetable : Timetable) (ledger : Ledger) (slot : Slot) :
    ((timetable.shownIn ledger slot).map (·.unlocated)).Perm
      ((slot.discussions.filterMap (shown? ledger slot)).map (·.unlocated)) := by
  rw [shownIn, map_located ShownDiscussion.unlocated_locatedAt]
  exact (List.mergeSort_perm _ _).map _

theorem of_mem_shownIn (hmem : shown ∈ timetable.shownIn ledger slot) :
    ∃ discussion ∈ slot.discussions, shown? ledger slot discussion = some shown.unlocated := by
  have hunlocated := (timetable.unlocated_shownIn ledger slot).subset (List.mem_map_of_mem hmem)
  obtain ⟨plain, hplain, hsame⟩ := List.mem_map.1 hunlocated
  obtain ⟨discussion, hlisted, hshown⟩ := List.mem_filterMap.1 hplain
  refine ⟨discussion, hlisted, ?_⟩
  obtain ⟨record, _, rfl⟩ := Option.map_eq_some_iff.1 hshown
  rw [hshown, ← hsame]
  rfl

/-- A discussion that the ledger does not know is not shown, and does not score either. -/
theorem total_score_shown (ledger : Ledger) (slot : Slot) (discussions : List DiscussionId) :
    total ((discussions.filterMap (shown? ledger slot)).map (·.score)) =
      total (discussions.map fun discussion =>
        (slot.discussionScore ledger discussion).score) := by
  induction discussions with
  | nil => rfl
  | cons discussion rest ih =>
      cases hrecord : ledger.discussion? discussion with
      | none => simp [shown?, hrecord, ih, Slot.discussionScore, Ledger.interested]
      | some record => simp [shown?, hrecord, ih]

theorem total_score_shownIn (timetable : Timetable) (ledger : Ledger) (slot : Slot) :
    total ((timetable.shownIn ledger slot).map (·.score)) = (slot.totalScore ledger).score := by
  have hperm := (timetable.unlocated_shownIn ledger slot).map (·.score)
  simp only [List.map_map] at hperm
  calc total ((timetable.shownIn ledger slot).map (·.score))
      = total ((slot.discussions.filterMap (shown? ledger slot)).map (·.score)) :=
        total_eq_of_perm hperm
    _ = total (slot.discussions.map fun discussion =>
          (slot.discussionScore ledger discussion).score) := total_score_shown ledger slot _
    _ = (slot.totalScore ledger).score := by
        rw [Slot.totalScore, Slot.score_sum, List.map_map]
        rfl

/-! ## A schedule on display -/

/-- Everything that the sessions show. -/
def displayed (timetable : Timetable) : List ShownDiscussion :=
  timetable.sessions.flatMap (·.discussions)

theorem discussions_eq_of_breaks
    {slots : List TimetableSlot}
    (hbreaks : ∀ slot ∈ slots, slot.isBreak = true → slot.discussions = []) :
    slots.flatMap (·.discussions) = (slots.filter (!·.isBreak)).flatMap (·.discussions) := by
  induction slots with
  | nil => rfl
  | cons slot rest ih =>
      have hrest := ih fun other hmem => hbreaks other (List.mem_cons_of_mem slot hmem)
      by_cases hbreak : slot.isBreak = true
      · simp [hbreak, hbreaks slot List.mem_cons_self hbreak, hrest]
      · simp [hbreak, hrest]

/-- If the breaks show nothing, the sessions show all there is. -/
theorem displayed_eq_of_breaks (hbreaks : ∀ slot ∈ timetable.breaks, slot.discussions = []) :
    timetable.slots.flatMap (·.discussions) = timetable.displayed :=
  discussions_eq_of_breaks fun slot hmem hbreak =>
    hbreaks slot (List.mem_filter.2 ⟨hmem, hbreak⟩)

/-- The sessions show the slots of the schedule one by one. -/
def Shows (timetable : Timetable) (ledger : Ledger) (schedule : Schedule) : Prop :=
  timetable.sessions.map (·.discussions) = schedule.slots.map (timetable.shownIn ledger)

theorem Shows.displayed_eq (hshows : timetable.Shows ledger schedule) :
    timetable.displayed = schedule.slots.flatMap (timetable.shownIn ledger) := by
  unfold displayed
  rw [List.flatMap_def, hshows, ← List.flatMap_def]

theorem Shows.total_score (hshows : timetable.Shows ledger schedule) :
    total (timetable.displayed.map (·.score)) = (schedule.totalScore ledger).score := by
  rw [hshows.displayed_eq, Schedule.totalScore, Slot.score_sum, List.map_map]
  induction schedule.slots with
  | nil => rfl
  | cons slot rest ih => simp [total_score_shownIn, ih]

theorem Shows.ids_displayed
    (hshows : timetable.Shows ledger schedule)
    (hknown : schedule.listings ⊆ ledger.discussionIds) :
    (timetable.displayed.map (·.id)).Perm schedule.listings := by
  have hall : schedule.listings.filter (fun discussion =>
      (ledger.discussion? discussion).isSome) = schedule.listings :=
    List.filter_eq_self.2 fun discussion hmem =>
      (ledger.discussion?_isSome_iff discussion).2 (hknown hmem)
  rw [hshows.displayed_eq, List.map_flatMap, ← hall, Schedule.listings, List.filter_flatMap]
  exact List.Perm.flatMap_left _ fun slot _ => timetable.ids_shownIn ledger slot

theorem Shows.divides
    (hshows : timetable.Shows ledger schedule) (hledger : ledger.Coherent)
    (hfresh : schedule.Fresh ledger) (hmem : shown ∈ timetable.displayed) :
    ∃ slot ∈ schedule.slots, shown.id ∈ slot.discussions ∧
      ∃ attendees absentees, shown.Divides ledger slot attendees absentees := by
  rw [hshows.displayed_eq] at hmem
  obtain ⟨slot, hslot, hshown⟩ := List.mem_flatMap.1 hmem
  obtain ⟨discussion, hlisted, hplain⟩ := of_mem_shownIn hshown
  have hdivides := divides_of_shown? hledger (hfresh.of_mem_slots slot hslot) hplain
  obtain ⟨record, _, hrecord⟩ := Option.map_eq_some_iff.1 hplain
  obtain rfl : discussion = shown.id := congrArg ShownDiscussion.id hrecord
  -- where it takes place is not among the things compared
  exact ⟨slot, hslot, hlisted, _, _, hdivides.once, hdivides.interested, hdivides.seated,
    hdivides.attending, hdivides.missing, hdivides.count⟩

end Timetable

end Unconference
