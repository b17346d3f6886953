import Unconference.Proofs.Slot.Attendance

/-!
# What the operations keep true of a slot

A slot is well formed after any operations, whatever ledgers they were made for.  As long as they
are made for one and the same ledger its attendance is fresh besides: the users attend what working
attendance out anew would give them.  In a fresh slot nobody has a reason to move, and the score
that an assignment announces is what the discussion adds to the worth of the slot.
-/

namespace Unconference

namespace Slot

open Ledger

structure WellFormed (slot : Slot) : Prop where
  nodup : slot.discussions.Nodup
  listed : ∀ user discussion,
    slot.attending user = some discussion → discussion ∈ slot.discussions

/-- Somebody who likes a discussion of the slot better than what they attend there. -/
def Aggrieved (slot : Slot) (ledger : Ledger) (user : UserId) : Prop :=
  ∃ discussion ∈ slot.discussions,
    slot.currentInterest ledger user < ledger.interest user discussion

/-- Everybody attends what they like best, or something that they like as much. -/
def Optimal (slot : Slot) (ledger : Ledger) : Prop :=
  ∀ user, slot.currentInterest ledger user = most (ledger.interest user) slot.discussions

/-- Everybody attends the first of the discussions that they like best. -/
def Fresh (slot : Slot) (ledger : Ledger) : Prop :=
  ∀ user, slot.attending user = (favourite ledger user slot.discussions).map (·.1)

/-! ## Well-formed slots -/

theorem wellFormed_empty : WellFormed ∅ := by
  constructor
  · exact List.nodup_nil
  · intro user discussion hattending
    simp at hattending

theorem WellFormed.assign
    {slot : Slot} (hslot : slot.WellFormed) {ledger : Ledger} (hledger : ledger.Coherent)
    (discussion : DiscussionId) : (slot.assign ledger discussion).1.WellFormed := by
  by_cases hmem : discussion ∈ slot.discussions
  · rw [assign_of_mem ledger hmem]
    exact hslot
  · constructor
    · exact nodup_assign hslot.nodup ledger discussion
    · intro user attended hattending
      rw [attending_assign hledger hmem] at hattending
      rw [mem_discussions_assign_iff]
      split at hattending
      · exact .inr (Option.some.inj hattending).symm
      · exact .inl (hslot.listed user attended hattending)

theorem WellFormed.remove
    {slot : Slot} (hslot : slot.WellFormed) (ledger : Ledger) (discussion : DiscussionId) :
    (slot.remove ledger discussion).1.WellFormed := by
  by_cases hmem : discussion ∈ slot.discussions
  · constructor
    · rw [discussions_remove]
      exact hslot.nodup.filter _
    · intro user attended hattending
      rw [attending_remove slot ledger hmem] at hattending
      split at hattending
      · rw [favourite_eq] at hattending
        obtain ⟨found, hfound, rfl⟩ := Option.map_eq_some_iff.1 hattending
        rw [discussions_remove]
        exact (changingOver_none_eq_some_iff.1 hfound).1.mem
      · rename_i hstays
        have hne : attended ≠ discussion := fun h => hstays (h ▸ hattending)
        exact mem_discussions_remove_iff.2 ⟨hslot.listed user attended hattending, hne⟩
  · rw [remove_of_not_mem ledger hmem]
    exact hslot

theorem Fresh.listed
    {slot : Slot} {ledger : Ledger} (hfresh : slot.Fresh ledger) (user : UserId)
    (discussion : DiscussionId) (hattending : slot.attending user = some discussion) :
    discussion ∈ slot.discussions := by
  rw [hfresh user, favourite_eq] at hattending
  obtain ⟨found, hfound, rfl⟩ := Option.map_eq_some_iff.1 hattending
  exact (changingOver_none_eq_some_iff.1 hfound).1.mem

theorem Fresh.interest_pos
    {slot : Slot} {ledger : Ledger} (hfresh : slot.Fresh ledger) {user : UserId}
    {discussion : DiscussionId} (hattending : slot.attending user = some discussion) :
    0 < ledger.interest user discussion := by
  rw [hfresh user, favourite_eq] at hattending
  obtain ⟨found, hfound, rfl⟩ := Option.map_eq_some_iff.1 hattending
  exact (changingOver_none_eq_some_iff.1 hfound).1.1

theorem fresh_refreshed
    {ledger : Ledger} (hledger : ledger.Coherent) (slot : Slot) :
    (slot.refreshed ledger).Fresh ledger := by
  intro user
  rw [attending_refreshed hledger, discussions_refreshed]

theorem WellFormed.refreshed
    {slot : Slot} (hslot : slot.WellFormed) {ledger : Ledger} (hledger : ledger.Coherent) :
    (slot.refreshed ledger).WellFormed := by
  constructor
  · rw [discussions_refreshed]
    exact hslot.nodup
  · exact (fresh_refreshed hledger slot).listed

/-! ## Fresh and optimal slots -/

theorem fresh_empty (ledger : Ledger) : Fresh ∅ ledger := fun _ => rfl

theorem Fresh.optimal
    {slot : Slot} {ledger : Ledger} (hfresh : slot.Fresh ledger) : slot.Optimal ledger := by
  intro user
  rw [currentInterest_eq, hfresh user, points_favourite]

theorem aggrieved_iff (slot : Slot) (ledger : Ledger) (user : UserId) :
    slot.Aggrieved ledger user ↔
      slot.currentInterest ledger user < most (ledger.interest user) slot.discussions := by
  exact lt_most_iff.symm

theorem Optimal.not_aggrieved
    {slot : Slot} {ledger : Ledger} (hoptimal : slot.Optimal ledger) (user : UserId) :
    ¬ slot.Aggrieved ledger user := by
  rw [aggrieved_iff, hoptimal user]
  exact lt_irrefl _

theorem WellFormed.currentInterest_le_most
    {slot : Slot} (hslot : slot.WellFormed) (ledger : Ledger) (user : UserId) :
    slot.currentInterest ledger user ≤ most (ledger.interest user) slot.discussions := by
  rw [currentInterest_eq]
  cases hattending : slot.attending user with
  | none => exact Nat.zero_le _
  | some discussion =>
      have hmem := hslot.listed user discussion hattending
      change ledger.interest user discussion ≤ _
      exact le_most hmem

theorem WellFormed.optimal_of_not_aggrieved
    {slot : Slot} (hslot : slot.WellFormed) {ledger : Ledger}
    (hcontent : ∀ user, ¬ slot.Aggrieved ledger user) : slot.Optimal ledger := by
  intro user
  have hle := hcontent user
  rw [aggrieved_iff, not_lt] at hle
  exact le_antisymm (hslot.currentInterest_le_most ledger user) hle

theorem Fresh.assign
    {slot : Slot} {ledger : Ledger} (hfresh : slot.Fresh ledger) (hledger : ledger.Coherent)
    (discussion : DiscussionId) : (slot.assign ledger discussion).1.Fresh ledger := by
  by_cases hmem : discussion ∈ slot.discussions
  · rw [assign_of_mem ledger hmem]
    exact hfresh
  · intro user
    have hcurrent := hfresh.optimal user
    rw [attending_assign hledger hmem, discussions_assign, if_neg hmem, favourite_eq,
      changingOver_append_singleton, hcurrent, changingOver_none_points]
    split
    · rfl
    · rw [hfresh user, favourite_eq]

/-- A user who attends something else has the same favourite without the removed discussion. -/
theorem favourite_filter_of_ne
    {ledger : Ledger} {user : UserId} {discussions : List DiscussionId}
    {discussion : DiscussionId}
    (hother : (favourite ledger user discussions).map (·.1) ≠ some discussion) :
    favourite ledger user (discussions.filter (· ≠ discussion)) =
      favourite ledger user discussions := by
  rw [favourite_eq] at hother ⊢
  rw [favourite_eq]
  rcases changingOver_none_spec (ledger.interest user) discussions with
    ⟨hnone, hmost⟩ | ⟨found, hsome, hfirst⟩
  · rw [hnone, changingOver_none_eq_none_iff]
    have hle : most (ledger.interest user) (discussions.filter (· ≠ discussion)) ≤
        most (ledger.interest user) discussions := most_mono (List.filter_subset_self _)
    omega
  · rw [hsome, changingOver_none_eq_some_iff]
    have hne : found ≠ discussion := by
      rintro rfl
      exact hother (by rw [hsome]; rfl)
    exact ⟨hfirst.filter (by simpa using hne), rfl⟩

theorem Fresh.remove
    {slot : Slot} {ledger : Ledger} (hfresh : slot.Fresh ledger) (discussion : DiscussionId) :
    (slot.remove ledger discussion).1.Fresh ledger := by
  by_cases hmem : discussion ∈ slot.discussions
  · intro user
    rw [attending_remove slot ledger hmem, discussions_remove]
    split
    · rfl
    · rename_i hstays
      rw [hfresh user] at hstays ⊢
      rw [favourite_filter_of_ne hstays]
  · rw [remove_of_not_mem ledger hmem]
    exact hfresh

/-! ## What an assignment adds -/

/-- Those who would not change over gain nothing, so everybody interested may be counted. -/
theorem total_switchers (slot : Slot) (ledger : Ledger) (discussion : DiscussionId) :
    total ((slot.switchers ledger discussion).map (·.2)) =
      total ((ledger.interested discussion).map fun wish =>
        wish.2 - slot.currentInterest ledger wish.1) := by
  unfold switchers
  induction ledger.interested discussion with
  | nil => rfl
  | cons wish rest ih =>
      rw [List.map_cons, total_cons, ← ih]
      by_cases hlt : slot.currentInterest ledger wish.1 < wish.2
      · simp [hlt]
      · have hnothing : wish.2 - slot.currentInterest ledger wish.1 = 0 := by omega
        simp [hlt, hnothing]

theorem Optimal.gain_eq
    {slot : Slot} {ledger : Ledger} (hoptimal : slot.Optimal ledger) (hledger : ledger.Coherent)
    (discussion : DiscussionId) :
    slot.gain ledger discussion = ledger.addedWorth slot.discussions discussion := by
  by_cases hmem : discussion ∈ slot.discussions
  · rw [addedWorth_eq_zero_of_mem hmem]
    unfold gain
    rw [if_pos ((slot.contains_iff discussion).2 hmem)]
  · unfold gain addedWorth
    rw [if_neg (by rw [contains_iff]; exact hmem), total_switchers,
      hledger.total_interested discussion _ fun _ => Nat.zero_sub _]
    simp only [hoptimal _]

theorem Optimal.worth_assign
    {slot : Slot} {ledger : Ledger} (hoptimal : slot.Optimal ledger) (hledger : ledger.Coherent)
    (discussion : DiscussionId) :
    ledger.worth (slot.assign ledger discussion).1.discussions =
      ledger.worth slot.discussions + slot.gain ledger discussion := by
  rw [hoptimal.gain_eq hledger, discussions_assign]
  by_cases hmem : discussion ∈ slot.discussions
  · rw [if_pos hmem, addedWorth_eq_zero_of_mem hmem, Nat.add_zero]
  · rw [if_neg hmem, worth_append_singleton]

end Slot

end Unconference
