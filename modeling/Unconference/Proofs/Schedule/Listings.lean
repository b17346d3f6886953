import Unconference.Proofs.Slot.Fresh
import Unconference.Proofs.SlotSet
import Unconference.Search.Climb
import Mathlib.Data.List.Perm.Basic

/-!
# What a schedule lists

Changing one slot leaves the others as they are, and changing an open one leaves the locked ones as
they are.  Putting a discussion into a slot that does not hold it adds one listing and taking one
out removes one, up to the order of the listings.  The two checks of a finished schedule say what
they seem to say: that nothing is listed twice, and that the locked slots list what they list in the
template.
-/

namespace Unconference

namespace Schedule

section

variable {schedule after template : Schedule} {ledger : Ledger} {slot : Slot} {index : Nat}
  {discussion : DiscussionId}

theorem slot?_eq_some_of_lt (hlt : index < schedule.size) :
    ∃ slot, schedule.slot? index = some slot :=
  ⟨_, List.getElem?_eq_getElem hlt⟩

theorem lt_size_of_slot? (hslot : schedule.slot? index = some slot) : index < schedule.size :=
  (List.getElem?_eq_some_iff.1 hslot).1

theorem mem_discussionsAt_iff :
    discussion ∈ (schedule.discussionsAt index).getD [] ↔
      ∃ slot, schedule.slot? index = some slot ∧ discussion ∈ slot.discussions := by
  unfold discussionsAt
  cases hslot : schedule.slot? index <;> simp

theorem discussionsAt_eq (hslot : schedule.slot? index = some slot) :
    schedule.discussionsAt index = some slot.discussions := by
  rw [discussionsAt, hslot, Option.map_some]

theorem mem_openSlots_iff :
    index ∈ schedule.openSlots ledger discussion ↔
      index < schedule.size ∧ schedule.isLocked index = false ∧
        ledger.isSlotPermitted discussion index = true := by
  simp [openSlots]

theorem openSlots_congr {after : Schedule} (hsize : after.size = schedule.size)
    (hlocked : after.locked = schedule.locked) (ledger : Ledger) (discussion : DiscussionId) :
    after.openSlots ledger discussion = schedule.openSlots ledger discussion := by
  unfold openSlots isLocked
  rw [hsize, hlocked]

theorem mem_occupiedSlots_iff :
    index ∈ schedule.occupiedSlots ↔
      schedule.isLocked index = false ∧
        ∃ slot, schedule.slot? index = some slot ∧ slot.discussions ≠ [] := by
  unfold occupiedSlots
  rw [List.mem_filter, List.mem_range, Bool.and_eq_true, Bool.not_eq_true']
  constructor
  · rintro ⟨hlt, hopen, hoccupied⟩
    obtain ⟨slot, hslot⟩ := slot?_eq_some_of_lt hlt
    refine ⟨hopen, slot, hslot, ?_⟩
    simpa [hslot, Slot.isEmpty] using hoccupied
  · rintro ⟨hopen, slot, hslot, hoccupied⟩
    refine ⟨lt_size_of_slot? hslot, hopen, ?_⟩
    simpa [hslot, Slot.isEmpty] using hoccupied

/-! ## Changing one slot -/

variable (change : Slot → Slot)

@[simp] theorem size_modifySlot : (schedule.modifySlot index change).size = schedule.size := by
  simp [modifySlot, size]

theorem slot?_modifySlot_self :
    (schedule.modifySlot index change).slot? index = (schedule.slot? index).map change := by
  simp [modifySlot, slot?]

theorem slot?_modifySlot_of_ne {other : Nat} (hne : index ≠ other) :
    (schedule.modifySlot index change).slot? other = schedule.slot? other := by
  simp [modifySlot, slot?, hne]

theorem slot?_modifySlot_eq_some {other : Nat} {after : Slot}
    (hslot : (schedule.modifySlot index change).slot? other = some after) :
    (∃ before, index = other ∧ schedule.slot? index = some before ∧ after = change before) ∨
      (index ≠ other ∧ schedule.slot? other = some after) := by
  by_cases heq : index = other
  · subst other
    rw [slot?_modifySlot_self] at hslot
    obtain ⟨before, hbefore, rfl⟩ := Option.map_eq_some_iff.1 hslot
    exact .inl ⟨before, rfl, hbefore, rfl⟩
  · rw [slot?_modifySlot_of_ne change heq] at hslot
    exact .inr ⟨heq, hslot⟩

/-- Up to their order, the slots are the one that is changed and others that are not. -/
theorem perm_slots_modifySlot (hslot : schedule.slot? index = some slot) :
    ∃ others,
      schedule.slots.Perm (slot :: others) ∧
        (schedule.modifySlot index change).slots.Perm (change slot :: others) := by
  obtain ⟨hlt, hget⟩ := List.getElem?_eq_some_iff.1 hslot
  have hsplit := List.take_append_drop index schedule.slots
  rw [List.drop_eq_getElem_cons hlt, hget] at hsplit
  have hmodified := List.modify_eq_take_cons_drop (f := change) hlt
  rw [hget] at hmodified
  refine ⟨schedule.slots.take index ++ schedule.slots.drop (index + 1), ?_, ?_⟩
  · exact (List.Perm.of_eq hsplit.symm).trans List.perm_middle
  · exact (List.Perm.of_eq hmodified).trans List.perm_middle

theorem perm_listings_modifySlot (hslot : schedule.slot? index = some slot) :
    ∃ others,
      schedule.listings.Perm (slot.discussions ++ others) ∧
        (schedule.modifySlot index change).listings.Perm
          ((change slot).discussions ++ others) := by
  obtain ⟨others, hbefore, hafter⟩ := perm_slots_modifySlot change hslot
  exact ⟨others.flatMap Slot.discussions, hbefore.flatMap_right Slot.discussions,
    hafter.flatMap_right Slot.discussions⟩

theorem perm_listings_assign
    (ledger : Ledger) (hslot : schedule.slot? index = some slot)
    (habsent : discussion ∉ slot.discussions) :
    (schedule.assign ledger index discussion).listings.Perm
      (discussion :: schedule.listings) := by
  obtain ⟨others, hbefore, hafter⟩ :=
    perm_listings_modifySlot (fun slot => (slot.assign ledger discussion).1) hslot
  rw [Slot.discussions_assign, if_neg habsent, List.append_assoc, List.singleton_append] at hafter
  exact hafter.trans (List.perm_middle.trans (hbefore.symm.cons discussion))

theorem perm_cons_of_remove
    (hnodup : slot.discussions.Nodup) (hlisted : discussion ∈ slot.discussions)
    {before after others : List DiscussionId} (hbefore : before.Perm (slot.discussions ++ others))
    (hafter : after.Perm ((slot.remove ledger discussion).1.discussions ++ others)) :
    before.Perm (discussion :: after) := by
  rw [Slot.discussions_remove, Slot.filter_ne_eq_erase hnodup] at hafter
  have htaken := (List.perm_cons_erase hlisted).append_right others
  exact hbefore.trans (htaken.trans (hafter.symm.cons discussion))

theorem perm_listings_remove
    (ledger : Ledger) (hslot : schedule.slot? index = some slot) (hnodup : slot.discussions.Nodup)
    (hlisted : discussion ∈ slot.discussions) :
    schedule.listings.Perm
      (discussion :: (schedule.remove ledger index discussion).listings) := by
  obtain ⟨others, hbefore, hafter⟩ :=
    perm_listings_modifySlot (fun slot => (slot.remove ledger discussion).1) hslot
  exact perm_cons_of_remove hnodup hlisted hbefore hafter

/-! ## Locked slots -/

/-- The later schedule has the same locks, and the locked slots are as they were. -/
structure LeavesLocked (schedule after : Schedule) : Prop where
  size : after.size = schedule.size
  locked : after.locked = schedule.locked
  kept : ∀ index, schedule.isLocked index = true → after.slot? index = schedule.slot? index

theorem LeavesLocked.refl (schedule : Schedule) : schedule.LeavesLocked schedule :=
  ⟨rfl, rfl, fun _ _ => rfl⟩

theorem LeavesLocked.isLocked (hleaves : schedule.LeavesLocked after) (index : Nat) :
    after.isLocked index = schedule.isLocked index :=
  congrArg (·.contains index) hleaves.locked

theorem LeavesLocked.discussionsAt
    (hleaves : schedule.LeavesLocked after) (hlocked : schedule.isLocked index = true) :
    after.discussionsAt index = schedule.discussionsAt index := by
  unfold Schedule.discussionsAt
  rw [hleaves.kept index hlocked]

theorem LeavesLocked.trans {last : Schedule} (hfirst : schedule.LeavesLocked after)
    (hsecond : after.LeavesLocked last) : schedule.LeavesLocked last where
  size := hsecond.size.trans hfirst.size
  locked := hsecond.locked.trans hfirst.locked
  kept index hlocked :=
    (hsecond.kept index ((hfirst.isLocked index).trans hlocked)).trans (hfirst.kept index hlocked)

theorem leavesLocked_modifySlot (hopen : schedule.isLocked index = false) (change : Slot → Slot) :
    schedule.LeavesLocked (schedule.modifySlot index change) where
  size := size_modifySlot change
  locked := rfl
  kept other hlocked := by
    have hne : index ≠ other := by
      rintro rfl
      rw [hopen] at hlocked
      cases hlocked
    exact slot?_modifySlot_of_ne change hne

/-! ## Where a discussion is listed -/

theorem mem_listings_iff {schedule : Schedule} {discussion : DiscussionId} :
    discussion ∈ schedule.listings ↔
      ∃ index slot, schedule.slot? index = some slot ∧ discussion ∈ slot.discussions := by
  unfold listings
  rw [List.mem_flatMap]
  constructor
  · rintro ⟨slot, hmem, hlisted⟩
    obtain ⟨index, hslot⟩ := List.mem_iff_getElem?.1 hmem
    exact ⟨index, slot, hslot, hlisted⟩
  · rintro ⟨index, slot, hslot, hlisted⟩
    exact ⟨slot, List.mem_of_getElem? hslot, hlisted⟩

theorem mem_listings_of_mem_discussionsAt
    (hlisted : discussion ∈ (schedule.discussionsAt index).getD []) :
    discussion ∈ schedule.listings := by
  obtain ⟨slot, hslot, hlisted⟩ := mem_discussionsAt_iff.1 hlisted
  exact mem_listings_iff.2 ⟨index, slot, hslot, hlisted⟩

theorem nodup_discussions_of_nodup_listings
    {schedule : Schedule} (hnodup : schedule.listings.Nodup) {index : Nat} {slot : Slot}
    (hslot : schedule.slot? index = some slot) : slot.discussions.Nodup :=
  (List.nodup_flatMap.1 hnodup).1 slot (List.mem_of_getElem? hslot)

/-! ## In hand and listed -/

variable {hand : List DiscussionId}

theorem perm_append_listings_assign
    (hopen : index ∈ schedule.openSlots ledger discussion)
    (hnodup : (discussion :: (hand ++ schedule.listings)).Nodup) :
    (hand ++ (schedule.assign ledger index discussion).listings).Perm
      (discussion :: (hand ++ schedule.listings)) := by
  obtain ⟨slot, hslot⟩ := slot?_eq_some_of_lt (mem_openSlots_iff.1 hopen).1
  have habsent : discussion ∉ slot.discussions := fun hlisted =>
    (List.nodup_cons.1 hnodup).1
      (List.mem_append_right hand (mem_listings_iff.2 ⟨index, slot, hslot, hlisted⟩))
  exact ((perm_listings_assign ledger hslot habsent).append_left hand).trans List.perm_middle

theorem perm_append_listings_remove
    (ledger : Ledger) (hslot : schedule.slot? index = some slot)
    (hlisted : discussion ∈ slot.discussions) (hnodup : (hand ++ schedule.listings).Nodup) :
    (hand ++ [discussion] ++ (schedule.remove ledger index discussion).listings).Perm
      (hand ++ schedule.listings) := by
  have hslotNodup := nodup_discussions_of_nodup_listings (List.nodup_append.1 hnodup).2.1 hslot
  rw [List.append_assoc, List.singleton_append]
  exact ((perm_listings_remove ledger hslot hslotNodup hlisted).append_left hand).symm

end

/-! ## Listed once -/

/-- A discussion that is listed once only is listed in one slot only. -/
theorem index_unique_of_nodup_listings
    {schedule : Schedule} (hnodup : schedule.listings.Nodup) {discussion : DiscussionId}
    {index other : Nat} {slot otherSlot : Slot}
    (hslot : schedule.slot? index = some slot) (hlisted : discussion ∈ slot.discussions)
    (hotherSlot : schedule.slot? other = some otherSlot)
    (hotherListed : discussion ∈ otherSlot.discussions) : index = other := by
  have hpairwise := List.pairwise_iff_getElem.1 (List.nodup_flatMap.1 hnodup).2
  obtain ⟨hlt, hget⟩ := List.getElem?_eq_some_iff.1 hslot
  obtain ⟨hotherLt, hotherGet⟩ := List.getElem?_eq_some_iff.1 hotherSlot
  rcases Nat.lt_trichotomy index other with hbefore | heq | hafter
  · have hdisjoint := hpairwise index other hlt hotherLt hbefore
    rw [hget, hotherGet] at hdisjoint
    exact absurd hotherListed (hdisjoint hlisted)
  · exact heq
  · have hdisjoint := hpairwise other index hotherLt hlt hafter
    rw [hget, hotherGet] at hdisjoint
    exact absurd hlisted (hdisjoint hotherListed)

theorem placement_eq_some_of_nodup_listings
    {schedule : Schedule} (hnodup : schedule.listings.Nodup) {discussion : DiscussionId}
    {index : Nat} {slot : Slot} (hslot : schedule.slot? index = some slot)
    (hlisted : discussion ∈ slot.discussions) :
    schedule.placement discussion = some index := by
  cases hfound : schedule.placement discussion with
  | none =>
      have hnowhere := List.findIdx?_eq_none_iff.1 hfound slot (List.mem_of_getElem? hslot)
      rw [(slot.contains_iff discussion).2 hlisted] at hnowhere
      cases hnowhere
  | some found =>
      obtain ⟨hlt, hcontains, _⟩ := List.findIdx?_eq_some_iff_getElem.1 hfound
      have hfoundListed := (Slot.contains_iff _ discussion).1 hcontains
      rw [index_unique_of_nodup_listings hnodup hslot hlisted
        (List.getElem?_eq_getElem hlt) hfoundListed]

/-! ## The checks of a finished schedule -/

theorem firstRepeated_eq_none_iff (seen discussions : List DiscussionId) :
    firstRepeated seen discussions = none ↔
      discussions.Nodup ∧ ∀ discussion ∈ discussions, discussion ∉ seen := by
  induction discussions generalizing seen with
  | nil => simp [firstRepeated]
  | cons discussion rest ih =>
      rw [firstRepeated]
      by_cases hseen : discussion ∈ seen
      · simp [hseen]
      · have hcontains : ¬ seen.contains discussion = true := by simpa using hseen
        rw [if_neg hcontains, ih, List.nodup_cons]
        simp only [List.mem_cons, not_or]
        constructor
        · rintro ⟨hnodup, hrest⟩
          have habsent : discussion ∉ rest := fun hmem => (hrest discussion hmem).1 rfl
          refine ⟨⟨habsent, hnodup⟩, ?_⟩
          rintro other (rfl | hmem)
          · exact hseen
          · exact (hrest other hmem).2
        · rintro ⟨⟨habsent, hnodup⟩, hrest⟩
          refine ⟨hnodup, fun other hmem => ⟨?_, hrest other (.inr hmem)⟩⟩
          rintro rfl
          exact habsent hmem

theorem checkUnique_eq_ok_iff (schedule : Schedule) :
    schedule.checkUnique = .ok () ↔ schedule.listings.Nodup := by
  have hrepeated := firstRepeated_eq_none_iff [] schedule.listings
  unfold checkUnique
  cases hfirst : firstRepeated [] schedule.listings with
  | none => simpa using hrepeated.1 hfirst
  | some discussion =>
      rw [hfirst] at hrepeated
      simpa using hrepeated

theorem checkLocked_eq_ok_iff (schedule template : Schedule) :
    schedule.checkLocked template = .ok () ↔
      ∀ index, schedule.isLocked index = true →
        schedule.discussionsAt index = template.discussionsAt index := by
  unfold checkLocked
  cases hfound : schedule.locked.toList.find? fun index =>
      schedule.discussionsAt index ≠ template.discussionsAt index with
  | none =>
      simp only [true_iff]
      intro index hlocked
      have hsame := List.find?_eq_none.1 hfound index ((SlotSet.mem_toList_iff _ _).2 hlocked)
      simpa using hsame
  | some index =>
      simp only [reduceCtorEq, false_iff]
      intro hall
      have hlocked := (SlotSet.mem_toList_iff _ _).1 (List.mem_of_find?_eq_some hfound)
      have hchanged := List.find?_some hfound
      simp [hall index hlocked] at hchanged

end Schedule

end Unconference
