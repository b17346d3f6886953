import Unconference.Proofs.Search.Fitting

/-!
# Work list and template

The work list of a snapshot and the template that a search starts from share the discussions
between them: what sits in a locked slot is in the template and not on the work list.  So if the
prior schedule lists nothing twice, neither do the two together.
-/

namespace Unconference

/-- A schedule that searches may build on: none at all, or one that lists nothing twice. -/
def ListsOnce (prior : Option Schedule) : Prop :=
  ∀ schedule, prior = some schedule → schedule.listings.Nodup

theorem Ledger.nodup_discussionIds (ledger : Ledger) : ledger.discussionIds.Nodup := by
  unfold Ledger.discussionIds
  apply List.nodup_range.map
  intro number other hequal
  exact DiscussionId.mk.inj hequal

namespace Snapshot

theorem take_eq_ok
    {ledger : Ledger} {locked : SlotSet} {slotCount : Nat} {prior : Option Schedule}
    {validation : Validation} {snapshot : Snapshot}
    (htake : take ledger locked slotCount prior validation = .ok snapshot) :
    snapshot = {
      ledger, locked, slotCount, prior, validation
      worklist := ledger.discussionIds.filter fun discussion =>
        !sitsInLockedSlot prior locked discussion } := by
  unfold take at htake
  split at htake
  · split at htake
    · cases htake
    · split at htake
      · cases htake
      · exact (Except.ok.inj htake).symm
  · cases htake

/-- The work list is what `take` makes it. -/
def WorklistTaken (snapshot : Snapshot) : Prop :=
  snapshot.worklist = snapshot.ledger.discussionIds.filter fun discussion =>
    !sitsInLockedSlot snapshot.prior snapshot.locked discussion

theorem worklistTaken_of_take
    {ledger : Ledger} {locked : SlotSet} {slotCount : Nat} {prior : Option Schedule}
    {validation : Validation} {snapshot : Snapshot}
    (htake : take ledger locked slotCount prior validation = .ok snapshot) :
    snapshot.WorklistTaken := by
  rw [take_eq_ok htake]
  rfl

theorem mem_startingSlot_iff
    {snapshot : Snapshot} {index : Nat} {discussion : DiscussionId} :
    discussion ∈ (snapshot.startingSlot index).discussions ↔
      snapshot.locked.contains index = true ∧
        ∃ schedule slot, snapshot.prior = some schedule ∧
          schedule.slot? index = some slot ∧ discussion ∈ slot.discussions := by
  cases hlocked : snapshot.locked.contains index with
  | false => simp [startingSlot_of_open hlocked]
  | true =>
      rw [startingSlot_of_locked hlocked, Slot.discussions_refreshed]
      cases hprior : snapshot.prior with
      | none => simp
      | some schedule => cases hslot : schedule.slot? index <;> simp [hslot]

theorem nodup_startingSlot
    {snapshot : Snapshot} (hprior : ListsOnce snapshot.prior) (index : Nat) :
    (snapshot.startingSlot index).discussions.Nodup := by
  cases hlocked : snapshot.locked.contains index with
  | false =>
      rw [startingSlot_of_open hlocked]
      exact List.nodup_nil
  | true =>
      rw [startingSlot_of_locked hlocked, Slot.discussions_refreshed]
      cases hschedule : snapshot.prior with
      | none => simp
      | some schedule =>
          cases hslot : schedule.slot? index with
          | none => simp [hslot]
          | some slot =>
              have hnodup := Schedule.nodup_discussions_of_nodup_listings
                (hprior schedule hschedule) hslot
              simpa [hslot] using hnodup

theorem nodup_listings_template
    {snapshot : Snapshot} (hprior : ListsOnce snapshot.prior) :
    snapshot.template.listings.Nodup := by
  unfold template Schedule.listings
  rw [List.flatMap_map, List.nodup_flatMap]
  constructor
  · exact fun index _ => nodup_startingSlot hprior index
  · apply List.pairwise_lt_range.imp
    intro index other hlt discussion hlisted hother
    obtain ⟨_, schedule, slot, hschedule, hslot, hlisted⟩ := mem_startingSlot_iff.1 hlisted
    obtain ⟨_, _, otherSlot, hsame, hotherSlot, hother⟩ := mem_startingSlot_iff.1 hother
    obtain rfl := Option.some.inj (hschedule.symm.trans hsame)
    have hequal := Schedule.index_unique_of_nodup_listings (hprior schedule hschedule)
      hslot hlisted hotherSlot hother
    omega

theorem not_mem_worklist_of_template
    {snapshot : Snapshot} (hworklist : snapshot.WorklistTaken)
    (hprior : ListsOnce snapshot.prior) {discussion : DiscussionId}
    (hlisted : discussion ∈ snapshot.template.listings) : discussion ∉ snapshot.worklist := by
  obtain ⟨index, slot, hslot, hlisted⟩ := Schedule.mem_listings_iff.1 hlisted
  rw [slot?_template] at hslot
  split at hslot
  · obtain rfl := Option.some.inj hslot
    obtain ⟨hlocked, schedule, slot, hschedule, hslot, hlisted⟩ := mem_startingSlot_iff.1 hlisted
    have hplacement := Schedule.placement_eq_some_of_nodup_listings
      (hprior schedule hschedule) hslot hlisted
    rw [hworklist]
    simp [sitsInLockedSlot, hschedule, hplacement, hlocked]
  · cases hslot

theorem nodup_worklist_append_template
    {snapshot : Snapshot} (hworklist : snapshot.WorklistTaken)
    (hprior : ListsOnce snapshot.prior) :
    (snapshot.worklist ++ snapshot.template.listings).Nodup := by
  rw [List.nodup_append]
  refine ⟨?_, nodup_listings_template hprior, ?_⟩
  · rw [hworklist]
    exact (Ledger.nodup_discussionIds _).filter _
  · rintro discussion hwaiting _ hlisted rfl
    exact not_mem_worklist_of_template hworklist hprior hlisted hwaiting

/-- In a locked slot the template lists what the prior schedule lists there, if it has that slot. -/
theorem discussionsAt_template
    {snapshot : Snapshot} {index : Nat} (hlocked : snapshot.locked.contains index = true)
    (hlt : index < snapshot.slotCount) :
    snapshot.template.discussionsAt index =
      some ((snapshot.prior.bind (·.discussionsAt index)).getD []) := by
  unfold Schedule.discussionsAt
  rw [slot?_template, if_pos hlt, startingSlot_of_locked hlocked, Option.map_some,
    Slot.discussions_refreshed]
  cases hprior : snapshot.prior with
  | none => rfl
  | some schedule => cases hslot : schedule.slot? index <;> simp [hslot]

end Snapshot

end Unconference
