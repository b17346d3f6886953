import Unconference.Proofs.Schedule.Scoring
import Unconference.Proofs.Search.Handling

/-!
# Schedules that fit a snapshot

A schedule fits a snapshot if it has its slots and its locks, leaves the locked slots as the
template has them, and holds in the others only discussions of the work list that are permitted
there.  The template fits and every step of handling keeps it so.  If the work list and the template
do not have a discussion in common, nothing is ever listed twice.
-/

namespace Unconference

/-! ## The template -/

namespace Snapshot

theorem slot?_template (snapshot : Snapshot) (index : Nat) :
    snapshot.template.slot? index =
      if index < snapshot.slotCount then some (snapshot.startingSlot index) else none := by
  unfold template Schedule.slot?
  by_cases hlt : index < snapshot.slotCount <;> simp [hlt]

theorem size_template (snapshot : Snapshot) : snapshot.template.size = snapshot.slotCount := by
  simp [template, Schedule.size]

theorem startingSlot_of_locked
    {snapshot : Snapshot} {index : Nat} (hlocked : snapshot.locked.contains index = true) :
    snapshot.startingSlot index =
      ((snapshot.prior.bind (·.slot? index)).getD ∅).refreshed snapshot.ledger :=
  if_pos hlocked

theorem startingSlot_of_open
    {snapshot : Snapshot} {index : Nat} (hopen : snapshot.locked.contains index = false) :
    snapshot.startingSlot index = ∅ := by
  unfold startingSlot
  rw [hopen]
  rfl

theorem fresh_template {snapshot : Snapshot} (hledger : snapshot.ledger.Coherent) :
    snapshot.template.Fresh snapshot.ledger := by
  intro index slot hslot
  rw [slot?_template] at hslot
  split at hslot
  · obtain rfl := Option.some.inj hslot
    cases hlocked : snapshot.locked.contains index with
    | true =>
        rw [startingSlot_of_locked hlocked]
        exact Slot.fresh_refreshed hledger _
    | false =>
        rw [startingSlot_of_open hlocked]
        exact Slot.fresh_empty snapshot.ledger
  · cases hslot

end Snapshot

/-! ## Fitting schedules -/

namespace Schedule

structure Fits (snapshot : Snapshot) (hand : List DiscussionId) (schedule : Schedule) : Prop where
  size : schedule.size = snapshot.slotCount
  locked : schedule.locked = snapshot.locked
  fresh : schedule.Fresh snapshot.ledger
  kept : ∀ index, snapshot.locked.contains index = true →
    schedule.slot? index = snapshot.template.slot? index
  permitted : ∀ index slot, snapshot.locked.contains index = false →
    schedule.slot? index = some slot → ∀ discussion ∈ slot.discussions,
      discussion ∈ snapshot.worklist ∧ snapshot.ledger.isSlotPermitted discussion index = true
  fromWorklist : hand ⊆ snapshot.worklist

variable {snapshot : Snapshot} {schedule : Schedule} {hand : List DiscussionId}
  {discussion : DiscussionId} {index : Nat}

theorem fits_template (hledger : snapshot.ledger.Coherent) (hhand : hand ⊆ snapshot.worklist) :
    snapshot.template.Fits snapshot hand := by
  constructor
  · exact snapshot.size_template
  · rfl
  · exact Snapshot.fresh_template hledger
  · exact fun _ _ => rfl
  · intro index slot hopen hslot discussion hlisted
    rw [Snapshot.slot?_template] at hslot
    split at hslot
    · obtain rfl := Option.some.inj hslot
      rw [Snapshot.startingSlot_of_open hopen] at hlisted
      cases hlisted
    · cases hslot
  · exact hhand

theorem Fits.isLocked (hfits : schedule.Fits snapshot hand) (index : Nat) :
    schedule.isLocked index = snapshot.locked.contains index := by
  unfold Schedule.isLocked
  rw [hfits.locked]

theorem Fits.modifySlot
    (hfits : schedule.Fits snapshot hand) (hopen : snapshot.locked.contains index = false)
    {change : Slot → Slot} {handAfter : List DiscussionId}
    (hfresh : (schedule.modifySlot index change).Fresh snapshot.ledger)
    (hlisted : ∀ slot, schedule.slot? index = some slot →
      ∀ discussion ∈ (change slot).discussions, discussion ∈ slot.discussions ∨
        discussion ∈ snapshot.worklist ∧ snapshot.ledger.isSlotPermitted discussion index = true)
    (hhand : handAfter ⊆ snapshot.worklist) :
    (schedule.modifySlot index change).Fits snapshot handAfter := by
  constructor
  · rw [size_modifySlot]
    exact hfits.size
  · exact hfits.locked
  · exact hfresh
  · intro other hlocked
    have hleaves := leavesLocked_modifySlot ((hfits.isLocked index).trans hopen) change
    rw [hleaves.kept other ((hfits.isLocked other).trans hlocked)]
    exact hfits.kept other hlocked
  · intro other slot hother hslot discussion hmem
    rcases slot?_modifySlot_eq_some change hslot with ⟨before, rfl, hbefore, rfl⟩ | ⟨_, hslot⟩
    · rcases hlisted before hbefore discussion hmem with hmem | hpermitted
      · exact hfits.permitted index before hopen hbefore discussion hmem
      · exact hpermitted
    · exact hfits.permitted other slot hother hslot discussion hmem
  · exact hhand

theorem Fits.afterPut
    (hfits : schedule.Fits snapshot (discussion :: hand)) (hledger : snapshot.ledger.Coherent)
    (hopen : index ∈ schedule.openSlots snapshot.ledger discussion) :
    (schedule.assign snapshot.ledger index discussion).Fits snapshot hand := by
  obtain ⟨_, hunlocked, hpermitted⟩ := mem_openSlots_iff.1 hopen
  rw [hfits.isLocked] at hunlocked
  have hworklist : discussion ∈ snapshot.worklist := hfits.fromWorklist List.mem_cons_self
  apply hfits.modifySlot hunlocked (hfits.fresh.assign hledger index discussion)
  · intro slot _ other hother
    rcases Slot.mem_discussions_assign_iff.1 hother with hother | rfl
    · exact .inl hother
    · exact .inr ⟨hworklist, hpermitted⟩
  · exact fun other hother => hfits.fromWorklist (List.mem_cons_of_mem discussion hother)

theorem Fits.afterSpare (hfits : schedule.Fits snapshot (discussion :: hand)) :
    schedule.Fits snapshot hand :=
  { hfits with
    fromWorklist := fun _ hother =>
      hfits.fromWorklist (List.mem_cons_of_mem discussion hother) }

theorem Fits.afterTake
    (hfits : schedule.Fits snapshot hand) (hopen : schedule.isLocked index = false) {slot : Slot}
    (hslot : schedule.slot? index = some slot) (hlisted : discussion ∈ slot.discussions) :
    (schedule.remove snapshot.ledger index discussion).Fits snapshot (hand ++ [discussion]) := by
  rw [hfits.isLocked] at hopen
  have hworklist := (hfits.permitted index slot hopen hslot discussion hlisted).1
  apply hfits.modifySlot hopen (hfits.fresh.remove index discussion)
  · exact fun before _ other hother => .inl (Slot.mem_discussions_remove_iff.1 hother).1
  · intro other hother
    rcases List.mem_append.1 hother with hother | hother
    · exact hfits.fromWorklist hother
    · exact List.mem_singleton.1 hother ▸ hworklist

end Schedule

/-! ## Handling -/

theorem Handling.fits
    {snapshot : Snapshot} (hledger : snapshot.ledger.Coherent)
    {spared : Schedule → DiscussionId → Prop} {hand handAfter : List DiscussionId}
    {schedule after : Schedule}
    (hhandling : Handling snapshot.ledger spared hand schedule handAfter after)
    (hfits : schedule.Fits snapshot hand) : after.Fits snapshot handAfter := by
  induction hhandling with
  | done => exact hfits
  | put hopen _ ih => exact ih (hfits.afterPut hledger hopen)
  | spare _ _ ih => exact ih hfits.afterSpare
  | take hopen hslot hlisted _ ih => exact ih (hfits.afterTake hopen hslot hlisted)

theorem Handling.nodup
    {ledger : Ledger} {spared : Schedule → DiscussionId → Prop}
    {hand handAfter : List DiscussionId} {schedule after : Schedule}
    (hhandling : Handling ledger spared hand schedule handAfter after)
    (hnodup : (hand ++ schedule.listings).Nodup) : (handAfter ++ after.listings).Nodup := by
  induction hhandling with
  | done => exact hnodup
  | put hopen _ ih =>
      exact ih ((Schedule.perm_append_listings_assign hopen hnodup).nodup_iff.2 hnodup)
  | spare _ _ ih => exact ih (List.nodup_cons.1 hnodup).2
  | take _ hslot hlisted _ ih =>
      exact ih ((Schedule.perm_append_listings_remove _ hslot hlisted hnodup).nodup_iff.2 hnodup)

end Unconference
