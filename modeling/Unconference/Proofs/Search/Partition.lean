import Unconference.Proofs.Search.Approximation
import Unconference.Proofs.Search.Conservation
import Unconference.Proofs.Search.Placement

/-!
# Nothing lost between work list and template

The work list asks where the prior schedule has a discussion first, the template copies the locked
slots by their index.  As long as the prior schedule lists nothing twice and has no slot past the
end, every discussion of the ledger is in exactly one of the two.  Building at random then finds a
place for whatever has a slot it may be put into.
-/

namespace Unconference

namespace Snapshot

variable {snapshot : Snapshot} {discussion : DiscussionId} {index : Nat}

/-! ## The two sides -/

theorem worklist_ascending (hworklist : snapshot.WorklistTaken) :
    snapshot.worklist.Pairwise fun a b => a.number < b.number := by
  rw [hworklist]
  exact snapshot.ledger.discussionIds_ascending.filter _

theorem worklist_subset (hworklist : snapshot.WorklistTaken) :
    snapshot.worklist ⊆ snapshot.ledger.discussionIds := by
  rw [hworklist]
  exact List.filter_subset_self _

theorem slot?_template_of_open
    (hopen : snapshot.locked.contains index = false) (hlt : index < snapshot.slotCount) :
    snapshot.template.slot? index = some ∅ := by
  rw [slot?_template, if_pos hlt, startingSlot_of_open hopen]

theorem locked_of_mem_template
    (hlisted : discussion ∈ (snapshot.template.discussionsAt index).getD []) :
    snapshot.locked.contains index = true := by
  obtain ⟨slot, hslot, hlisted⟩ := Schedule.mem_discussionsAt_iff.1 hlisted
  rw [slot?_template] at hslot
  split at hslot
  · obtain rfl := Option.some.inj hslot
    exact (mem_startingSlot_iff.1 hlisted).1
  · cases hslot

/-- The prior schedule has no slot that the template could not copy. -/
def CoversPrior (snapshot : Snapshot) : Prop :=
  ∀ schedule, snapshot.prior = some schedule → schedule.size ≤ snapshot.slotCount

/-- What is not on the work list sits in a locked slot of the prior schedule, and so of the
template. -/
theorem mem_template_of_not_mem_worklist
    (hworklist : snapshot.WorklistTaken) (hcovers : snapshot.CoversPrior)
    (hknown : discussion ∈ snapshot.ledger.discussionIds)
    (hplaced : discussion ∉ snapshot.worklist) :
    ∃ index, snapshot.locked.contains index = true ∧
      discussion ∈ (snapshot.template.discussionsAt index).getD [] := by
  have hsits : sitsInLockedSlot snapshot.prior snapshot.locked discussion = true := by
    rw [hworklist] at hplaced
    simpa [hknown] using hplaced
  unfold sitsInLockedSlot at hsits
  cases hprior : snapshot.prior with
  | none => simp [hprior] at hsits
  | some schedule =>
      cases hplacement : schedule.placement discussion with
      | none => simp [hprior, hplacement] at hsits
      | some index =>
          have hlocked : snapshot.locked.contains index = true := by
            simpa [hprior, hplacement] using hsits
          obtain ⟨hlt, hcontains, _⟩ := List.findIdx?_eq_some_iff_getElem.1 hplacement
          have hslot : schedule.slot? index = some schedule.slots[index] :=
            List.getElem?_eq_getElem hlt
          refine ⟨index, hlocked, ?_⟩
          rw [discussionsAt_template hlocked (Nat.lt_of_lt_of_le hlt (hcovers schedule hprior)),
            hprior, Option.bind_some, Schedule.discussionsAt_eq hslot]
          exact (Slot.contains_iff _ discussion).1 hcontains

section

variable (hworklist : snapshot.WorklistTaken) (hprior : ListsOnce snapshot.prior)

include hworklist hprior

theorem mem_worklist_iff (hcovers : snapshot.CoversPrior)
    (hknown : discussion ∈ snapshot.ledger.discussionIds) :
    discussion ∈ snapshot.worklist ↔
      ¬ ∃ index, snapshot.locked.contains index = true ∧
        discussion ∈ (snapshot.template.discussionsAt index).getD [] := by
  constructor
  · rintro hwaiting ⟨index, _, hlisted⟩
    exact not_mem_worklist_of_template hworklist hprior
      (Schedule.mem_listings_of_mem_discussionsAt hlisted) hwaiting
  · intro hnowhere
    by_contra hplaced
    exact hnowhere (mem_template_of_not_mem_worklist hworklist hcovers hknown hplaced)

theorem count_worklist_append_template (hcovers : snapshot.CoversPrior)
    (hknown : discussion ∈ snapshot.ledger.discussionIds) :
    (snapshot.worklist ++ snapshot.template.listings).count discussion = 1 := by
  apply List.count_eq_one_of_mem (nodup_worklist_append_template hworklist hprior)
  rw [List.mem_append]
  by_cases hwaiting : discussion ∈ snapshot.worklist
  · exact .inl hwaiting
  · obtain ⟨index, _, hlisted⟩ :=
      mem_template_of_not_mem_worklist hworklist hcovers hknown hwaiting
    exact .inr (Schedule.mem_listings_of_mem_discussionsAt hlisted)

end

/-! ## Building at random -/

/-- A discussion is permitted in a slot that is not locked. -/
def HasRoomFor (snapshot : Snapshot) (discussion : DiscussionId) : Prop :=
  ∃ index < snapshot.slotCount, snapshot.locked.contains index = false ∧
    snapshot.ledger.isSlotPermitted discussion index = true

theorem placeable_template_iff :
    snapshot.template.placeable snapshot.ledger discussion = true ↔
      snapshot.HasRoomFor discussion := by
  unfold Schedule.placeable
  rw [decide_eq_true_iff]
  constructor
  · intro hsome
    obtain ⟨index, hopen⟩ := List.exists_mem_of_ne_nil _ hsome
    obtain ⟨hlt, hunlocked, hpermitted⟩ := Schedule.mem_openSlots_iff.1 hopen
    exact ⟨index, snapshot.size_template ▸ hlt, hunlocked, hpermitted⟩
  · rintro ⟨index, hlt, hunlocked, hpermitted⟩
    exact List.ne_nil_of_mem (Schedule.mem_openSlots_iff.2
      ⟨snapshot.size_template.symm ▸ hlt, hunlocked, hpermitted⟩)

theorem keepsToPermitted_template (snapshot : Snapshot) :
    snapshot.template.KeepsToPermitted snapshot.ledger := by
  intro index hopen discussion hlisted
  have hlocked : snapshot.template.isLocked index = true := locked_of_mem_template hlisted
  rw [hopen] at hlocked
  cases hlocked

section

variable {schedule : Schedule} (hworklist : snapshot.WorklistTaken)
  (hprior : ListsOnce snapshot.prior)
  (hhandling : Handling snapshot.ledger (Schedule.Excludes snapshot.ledger) snapshot.worklist
    snapshot.template [] schedule)

include hworklist hprior hhandling

theorem perm_listings_of_handling :
    schedule.listings.Perm
      (snapshot.worklist.filter (snapshot.template.placeable snapshot.ledger) ++
        snapshot.template.listings) :=
  hhandling.perm_listings snapshot.keepsToPermitted_template
    (nodup_worklist_append_template hworklist hprior)

theorem nodup_listings_of_handling : schedule.listings.Nodup :=
  hhandling.nodup (nodup_worklist_append_template hworklist hprior)

theorem mem_listings_of_handling_iff (hwaiting : discussion ∈ snapshot.worklist) :
    discussion ∈ schedule.listings ↔ snapshot.HasRoomFor discussion := by
  have habsent : discussion ∉ snapshot.template.listings :=
    fun hlisted => not_mem_worklist_of_template hworklist hprior hlisted hwaiting
  rw [(perm_listings_of_handling hworklist hprior hhandling).mem_iff, List.mem_append,
    List.mem_filter, placeable_template_iff]
  simp [hwaiting, habsent]

theorem count_listings_of_handling (hplaced : discussion ∉ snapshot.worklist) :
    schedule.listings.count discussion = snapshot.template.listings.count discussion := by
  have habsent : discussion ∉
      snapshot.worklist.filter (snapshot.template.placeable snapshot.ledger) :=
    fun hmem => hplaced (List.mem_filter.1 hmem).1
  rw [(perm_listings_of_handling hworklist hprior hhandling).count_eq, List.count_append,
    List.count_eq_zero_of_not_mem habsent, Nat.zero_add]

/-- The locked slots hold what they held, so what came in from the work list is elsewhere. -/
theorem open_iff_mem_worklist_of_handling
    (hlisted : discussion ∈ (schedule.discussionsAt index).getD []) :
    snapshot.locked.contains index = false ↔ discussion ∈ snapshot.worklist := by
  have hleaves := hhandling.leavesLocked
  constructor
  · intro hopen
    have hsome := Schedule.mem_listings_of_mem_discussionsAt hlisted
    rw [(perm_listings_of_handling hworklist hprior hhandling).mem_iff] at hsome
    rcases List.mem_append.1 hsome with hwaiting | htemplate
    · exact (List.mem_filter.1 hwaiting).1
    · obtain ⟨other, kept, hkept, hkeptListed⟩ := Schedule.mem_listings_iff.1 htemplate
      have hlocked : snapshot.locked.contains other = true :=
        locked_of_mem_template (Schedule.mem_discussionsAt_iff.2 ⟨kept, hkept, hkeptListed⟩)
      obtain ⟨slot, hslot, hlisted⟩ := Schedule.mem_discussionsAt_iff.1 hlisted
      have hsame := Schedule.index_unique_of_nodup_listings
        (nodup_listings_of_handling hworklist hprior hhandling) hslot hlisted
        ((hleaves.kept other hlocked).trans hkept) hkeptListed
      rw [hsame, hlocked] at hopen
      cases hopen
  · intro hwaiting
    cases hlocked : snapshot.locked.contains index with
    | false => rfl
    | true =>
        rw [hleaves.discussionsAt hlocked] at hlisted
        exact absurd hwaiting (not_mem_worklist_of_template hworklist hprior
          (Schedule.mem_listings_of_mem_discussionsAt hlisted))

theorem permitted_of_handling (hopen : snapshot.locked.contains index = false)
    (hlisted : discussion ∈ (schedule.discussionsAt index).getD []) :
    discussion ∈ snapshot.worklist ∧
      snapshot.ledger.isSlotPermitted discussion index = true := by
  have hunlocked := (hhandling.leavesLocked.isLocked index).trans hopen
  exact ⟨(open_iff_mem_worklist_of_handling hworklist hprior hhandling hlisted).1 hopen,
    hhandling.keepsToPermitted snapshot.keepsToPermitted_template index hunlocked discussion
      hlisted⟩

theorem placed_of_handling (hwaiting : discussion ∈ snapshot.worklist)
    (hroom : snapshot.HasRoomFor discussion) :
    schedule.listings.count discussion = 1 ∧
      ∃ index < snapshot.slotCount, snapshot.locked.contains index = false ∧
        snapshot.ledger.isSlotPermitted discussion index = true ∧
        discussion ∈ (schedule.discussionsAt index).getD [] := by
  have hsome := (mem_listings_of_handling_iff hworklist hprior hhandling hwaiting).2 hroom
  have hnodup := nodup_listings_of_handling hworklist hprior hhandling
  refine ⟨List.count_eq_one_of_mem hnodup hsome, ?_⟩
  obtain ⟨index, slot, hslot, hmem⟩ := Schedule.mem_listings_iff.1 hsome
  have hlisted := Schedule.mem_discussionsAt_iff.2 ⟨slot, hslot, hmem⟩
  have hlt := Schedule.lt_size_of_slot? hslot
  rw [hhandling.leavesLocked.size, snapshot.size_template] at hlt
  have hopen := (open_iff_mem_worklist_of_handling hworklist hprior hhandling hlisted).2 hwaiting
  have hpermitted := (permitted_of_handling hworklist hprior hhandling hopen hlisted).2
  exact ⟨index, hlt, hopen, hpermitted, hlisted⟩

end

/-- Whatever the ledger, its discussions are divided between the work list and the locked slots of
the template, and building at random places exactly those of the work list that have a slot. -/
theorem worklist_and_template_share_the_discussions
    {ledger : Ledger} {locked : SlotSet} {slotCount : Nat} {prior : Option Schedule}
    {validation : Validation} {snapshot : Snapshot}
    (hprior : ∀ schedule, prior = some schedule →
      schedule.checkUnique = .ok () ∧ schedule.size ≤ slotCount)
    (htake : take ledger locked slotCount prior validation = .ok snapshot) :
    -- the work list
    snapshot.worklist.Pairwise (fun a b => a.number < b.number) ∧
    snapshot.worklist ⊆ ledger.discussionIds ∧
    (∀ discussion ∈ ledger.discussionIds,
      (discussion ∈ snapshot.worklist ↔
        ¬ ∃ index, locked.contains index = true ∧
          discussion ∈ (snapshot.template.discussionsAt index).getD []) ∧
      (snapshot.worklist ++ snapshot.template.listings).count discussion = 1) ∧
    -- the template
    snapshot.template.size = slotCount ∧ snapshot.template.locked = locked ∧
    (∀ index < slotCount, locked.contains index = true →
      snapshot.template.discussionsAt index =
        some ((prior.bind (·.discussionsAt index)).getD [])) ∧
    (∀ index < slotCount, locked.contains index = false →
      snapshot.template.slot? index = some ∅) ∧
    -- schedules built at random
    ∀ {σ : Type} [RandomSource σ] (source : σ),
      (DrawsReturn source → ∃ answer, snapshot.randomSchedule source = some answer) ∧
      ∀ schedule rest, snapshot.randomSchedule source = some (schedule, rest) →
        schedule.size = slotCount ∧ schedule.locked = locked ∧
        (∀ index, locked.contains index = true →
          schedule.slot? index = snapshot.template.slot? index) ∧
        (∀ index, locked.contains index = false →
          ∀ discussion ∈ (schedule.discussionsAt index).getD [],
            discussion ∈ snapshot.worklist ∧ ledger.isSlotPermitted discussion index = true) ∧
        (∀ discussion ∈ snapshot.worklist, snapshot.HasRoomFor discussion →
          schedule.listings.count discussion = 1 ∧
          ∃ index < slotCount, locked.contains index = false ∧
            ledger.isSlotPermitted discussion index = true ∧
            discussion ∈ (schedule.discussionsAt index).getD []) ∧
        (∀ discussion ∈ snapshot.worklist, ¬ snapshot.HasRoomFor discussion →
          discussion ∉ schedule.listings) ∧
        ∀ discussion, discussion ∉ snapshot.worklist →
          schedule.listings.count discussion = snapshot.template.listings.count discussion := by
  have hworklist := worklistTaken_of_take htake
  obtain ⟨rfl, rfl, rfl, rfl⟩ : snapshot.ledger = ledger ∧ snapshot.locked = locked ∧
      snapshot.slotCount = slotCount ∧ snapshot.prior = prior := by
    rw [take_eq_ok htake]
    exact ⟨rfl, rfl, rfl, rfl⟩
  have honce : ListsOnce snapshot.prior := fun schedule hschedule =>
    (Schedule.checkUnique_eq_ok_iff schedule).1 (hprior schedule hschedule).1
  have hcovers : snapshot.CoversPrior := fun schedule hschedule => (hprior schedule hschedule).2
  refine ⟨worklist_ascending hworklist, worklist_subset hworklist, fun discussion hknown =>
      ⟨mem_worklist_iff hworklist honce hcovers hknown,
        count_worklist_append_template hworklist honce hcovers hknown⟩,
    snapshot.size_template, rfl, fun index hlt hlocked => discussionsAt_template hlocked hlt,
    fun index hlt hopen => slot?_template_of_open hopen hlt, ?_⟩
  intro σ _ source
  have hyields := Schedule.handling_assignAllRandomly snapshot.ledger snapshot.template
    snapshot.worklist source
  change Yields source _ (snapshot.randomSchedule source) at hyields
  refine ⟨hyields.exists_some, fun schedule rest hrandom => ?_⟩
  have hhandling := hyields.of_eq_some hrandom
  have hleaves := hhandling.leavesLocked
  exact ⟨hleaves.size.trans snapshot.size_template, hleaves.locked, hleaves.kept,
    fun _ hopen _ => permitted_of_handling hworklist honce hhandling hopen,
    fun _ => placed_of_handling hworklist honce hhandling,
    fun _ hwaiting hroom hlisted =>
      hroom ((mem_listings_of_handling_iff hworklist honce hhandling hwaiting).1 hlisted),
    fun _ => count_listings_of_handling hworklist honce hhandling⟩

/-- The second of the three talks may only take the slot that is going to be locked. -/
def crowdedLedger : Ledger :=
  (contestedLedger.addDiscussion ⟨0⟩ "elevators" true 2).2

def openingPrior : Schedule where
  slots := [((∅ : Slot).assign contestedLedger ⟨0⟩).1]

theorem worklist_and_template_share_the_discussions_of_crowdedLedger :
    ∃ snapshot,
      take crowdedLedger (SlotSet.ofList [0, 5]) 2 (some openingPrior) .strict = .ok snapshot ∧
        snapshot.worklist = [⟨1⟩, ⟨2⟩] ∧
        snapshot.template.discussionsAt 0 = some [⟨0⟩] ∧
        snapshot.template.slot? 1 = some ∅ ∧
        ∃ schedule rest,
          snapshot.randomSchedule (⟨[3, 1, 4]⟩ : WordList) = some (schedule, rest) ∧
            schedule.listings.count ⟨0⟩ = 1 ∧ (⟨1⟩ : DiscussionId) ∉ schedule.listings ∧
            schedule.listings.count ⟨2⟩ = 1 := by
  let snapshot : Snapshot := {
    ledger := crowdedLedger, locked := SlotSet.ofList [0, 5], slotCount := 2
    prior := some openingPrior, worklist := [⟨1⟩, ⟨2⟩], validation := .strict }
  have htake : take crowdedLedger (SlotSet.ofList [0, 5]) 2 (some openingPrior) .strict =
      .ok snapshot := by decide
  have hprior : ∀ schedule, some openingPrior = some schedule →
      schedule.checkUnique = .ok () ∧ schedule.size ≤ 2 := by
    rintro schedule hschedule
    obtain rfl := Option.some.inj hschedule
    decide
  obtain ⟨_, _, _, _, _, hlocked, hunlocked, hrandom⟩ :=
    worklist_and_template_share_the_discussions hprior htake
  obtain ⟨hreturns, hschedules⟩ := hrandom (⟨[3, 1, 4]⟩ : WordList)
  obtain ⟨⟨schedule, rest⟩, hschedule⟩ := hreturns (WordList.drawsReturn _)
  obtain ⟨_, _, _, _, hplaced, hleft, hsame⟩ := hschedules schedule rest hschedule
  have hthird : snapshot.HasRoomFor ⟨2⟩ := ⟨1, by decide, by decide, by decide⟩
  have hsecond : ¬ snapshot.HasRoomFor ⟨1⟩ := by
    unfold HasRoomFor
    decide
  refine ⟨snapshot, htake, rfl, ?_, hunlocked 1 (by decide) (by decide), schedule, rest, hschedule,
    ?_, hleft ⟨1⟩ (by decide) hsecond, (hplaced ⟨2⟩ (by decide) hthird).1⟩
  · exact hlocked 0 (by decide) (by decide)
  · rw [hsame ⟨0⟩ (by decide)]
    decide

end Snapshot

end Unconference
