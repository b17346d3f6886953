import Unconference.Proofs.Search.Fitting

/-!
# What handling keeps

Handling changes open slots only, and puts a discussion only where it is permitted.  A discussion
that may be put somewhere is never dropped, so what is in hand and may be put somewhere and what is
listed stay the same between them, up to the order.  Whatever cannot be put anywhere is spared and
has not been in an open slot before.
-/

namespace Unconference

namespace Schedule

variable {schedule : Schedule} {ledger : Ledger} {discussion : DiscussionId} {index : Nat}

/-! ## Permitted slots -/

/-- What the open slots list is permitted there. -/
def KeepsToPermitted (ledger : Ledger) (schedule : Schedule) : Prop :=
  ∀ index, schedule.isLocked index = false →
    ∀ discussion ∈ (schedule.discussionsAt index).getD [],
      ledger.isSlotPermitted discussion index = true

theorem KeepsToPermitted.modifySlot
    (hpermitted : schedule.KeepsToPermitted ledger) {change : Slot → Slot}
    (hlisted : ∀ slot, ∀ discussion ∈ (change slot).discussions,
      discussion ∈ slot.discussions ∨ ledger.isSlotPermitted discussion index = true) :
    (schedule.modifySlot index change).KeepsToPermitted ledger := by
  intro other hopen discussion hmem
  obtain ⟨slot, hslot, hmem⟩ := mem_discussionsAt_iff.1 hmem
  rcases slot?_modifySlot_eq_some change hslot with ⟨before, rfl, hbefore, rfl⟩ | ⟨_, hslot⟩
  · rcases hlisted before discussion hmem with hmem | hallowed
    · exact hpermitted index hopen discussion (mem_discussionsAt_iff.2 ⟨before, hbefore, hmem⟩)
    · exact hallowed
  · exact hpermitted other hopen discussion (mem_discussionsAt_iff.2 ⟨slot, hslot, hmem⟩)

theorem KeepsToPermitted.assign
    (hpermitted : schedule.KeepsToPermitted ledger)
    (hopen : index ∈ schedule.openSlots ledger discussion) :
    (schedule.assign ledger index discussion).KeepsToPermitted ledger := by
  apply hpermitted.modifySlot
  intro slot other hother
  rcases Slot.mem_discussions_assign_iff.1 hother with hother | rfl
  · exact .inl hother
  · exact .inr (mem_openSlots_iff.1 hopen).2.2

theorem KeepsToPermitted.remove
    (hpermitted : schedule.KeepsToPermitted ledger) (index : Nat) (discussion : DiscussionId) :
    (schedule.remove ledger index discussion).KeepsToPermitted ledger :=
  hpermitted.modifySlot fun _ _ hother => .inl (Slot.mem_discussions_remove_iff.1 hother).1

/-- A discussion may be put into some slot. -/
def placeable (ledger : Ledger) (schedule : Schedule) (discussion : DiscussionId) : Bool :=
  schedule.openSlots ledger discussion ≠ []

theorem placeable_of_mem_openSlots (hopen : index ∈ schedule.openSlots ledger discussion) :
    schedule.placeable ledger discussion = true :=
  decide_eq_true (List.ne_nil_of_mem hopen)

theorem Excludes.placeable_eq (hexcludes : schedule.Excludes ledger discussion) :
    schedule.placeable ledger discussion = false :=
  decide_eq_false (not_not_intro hexcludes)

theorem KeepsToPermitted.placeable
    (hpermitted : schedule.KeepsToPermitted ledger) (hopen : schedule.isLocked index = false)
    {slot : Slot} (hslot : schedule.slot? index = some slot)
    (hlisted : discussion ∈ slot.discussions) : schedule.placeable ledger discussion = true :=
  placeable_of_mem_openSlots <| mem_openSlots_iff.2 ⟨lt_size_of_slot? hslot, hopen,
    hpermitted index hopen discussion (mem_discussionsAt_iff.2 ⟨slot, hslot, hlisted⟩)⟩

theorem placeable_modifySlot (change : Slot → Slot) :
    (schedule.modifySlot index change).placeable ledger = schedule.placeable ledger := by
  funext discussion
  have hsame : (schedule.modifySlot index change).openSlots ledger discussion =
      schedule.openSlots ledger discussion :=
    openSlots_congr (size_modifySlot change) rfl ledger discussion
  unfold placeable
  rw [hsame]

end Schedule

/-! ## Handling -/

namespace Handling

variable {ledger : Ledger} {spared : Schedule → DiscussionId → Prop}
  {hand handAfter : List DiscussionId} {schedule after : Schedule}

theorem leavesLocked (hhandling : Handling ledger spared hand schedule handAfter after) :
    schedule.LeavesLocked after := by
  induction hhandling with
  | done hand schedule => exact .refl schedule
  | put hopen _ ih =>
      exact (Schedule.leavesLocked_modifySlot (Schedule.mem_openSlots_iff.1 hopen).2.1 _).trans ih
  | spare _ _ ih => exact ih
  | take hopen _ _ _ ih => exact (Schedule.leavesLocked_modifySlot hopen _).trans ih

theorem keepsToPermitted
    (hhandling : Handling ledger spared hand schedule handAfter after)
    (hpermitted : schedule.KeepsToPermitted ledger) : after.KeepsToPermitted ledger := by
  induction hhandling with
  | done => exact hpermitted
  | put hopen _ ih => exact ih (hpermitted.assign hopen)
  | spare _ _ ih => exact ih hpermitted
  | take _ _ _ _ ih => exact ih (hpermitted.remove _ _)

/-- What is in hand and may be put somewhere moves between the hand and the slots. -/
theorem perm_listings
    (hhandling : Handling ledger (Schedule.Excludes ledger) hand schedule handAfter after)
    (hpermitted : schedule.KeepsToPermitted ledger)
    (hnodup : (hand ++ schedule.listings).Nodup) :
    (handAfter.filter (schedule.placeable ledger) ++ after.listings).Perm
      (hand.filter (schedule.placeable ledger) ++ schedule.listings) := by
  -- the lemmas on single steps are applied to the part of the hand that has somewhere to go
  have hkept : ∀ (hand : List DiscussionId) (schedule : Schedule),
      (hand.filter (schedule.placeable ledger) ++ schedule.listings).Sublist
        (hand ++ schedule.listings) :=
    fun hand schedule => List.filter_sublist.append (.refl schedule.listings)
  induction hhandling with
  | done => exact .rfl
  | @put hand _ schedule _ index discussion hopen _ ih =>
      have hassign := ih (hpermitted.assign hopen)
        ((Schedule.perm_append_listings_assign hopen hnodup).nodup_iff.2 hnodup)
      have hmoved := Schedule.perm_append_listings_assign hopen
        (hnodup.sublist ((hkept hand schedule).cons_cons discussion))
      have hsame : (schedule.assign ledger index discussion).placeable ledger =
          schedule.placeable ledger := Schedule.placeable_modifySlot _
      rw [hsame] at hassign
      rw [List.filter_cons_of_pos (Schedule.placeable_of_mem_openSlots hopen)]
      exact hassign.trans hmoved
  | spare hspared _ ih =>
      -- it has no slot to go to, so it counts neither before nor after
      have hspare := ih hpermitted (List.nodup_cons.1 hnodup).2
      rwa [List.filter_cons_of_neg (by simp [hspared.placeable_eq])]
  | @take hand _ schedule _ index slot discussion hopen hslot hlisted _ ih =>
      have hremove := ih (hpermitted.remove index discussion)
        ((Schedule.perm_append_listings_remove ledger hslot hlisted hnodup).nodup_iff.2 hnodup)
      have hmoved := Schedule.perm_append_listings_remove ledger hslot hlisted
        (hnodup.sublist (hkept hand schedule))
      have hsame : (schedule.remove ledger index discussion).placeable ledger =
          schedule.placeable ledger := Schedule.placeable_modifySlot _
      rw [hsame, List.filter_append,
        List.filter_cons_of_pos (hpermitted.placeable hopen hslot hlisted),
        List.filter_nil] at hremove
      exact hremove.trans hmoved

end Handling

end Unconference
