import Unconference.Proofs.Ledger.Bookkeeping
import Unconference.Proofs.Search.Conservation
import Unconference.Proofs.Search.Report
import Unconference.Proofs.Search.Seating
import Mathlib.Data.List.Flatten

/-!
# What mutations keep

A mutation takes discussions out of the open slots, one after the other, and puts them back when it
has taken the last of them.  What it has taken and what is still there are together what was there
before, so nothing is taken twice; and what was permitted in the slot it was taken from may be put
somewhere, so nothing is left out in the end.  A climb is a chain of mutations, between which
scoring may change who attends what, but not what the slots list.
-/

namespace Unconference

namespace Schedule

/-! ## Discussions in open slots -/

def openIndices (schedule : Schedule) : List Nat :=
  (List.range schedule.size).filter fun index => !schedule.isLocked index

/-- The discussions of the slots that are not locked, in the order of the slots. -/
def openListings (schedule : Schedule) : List DiscussionId :=
  schedule.openIndices.flatMap fun index => (schedule.discussionsAt index).getD []

variable {schedule after : Schedule} {ledger : Ledger} {discussion : DiscussionId} {index : Nat}

theorem mem_openListings_iff :
    discussion ∈ schedule.openListings ↔
      ∃ index slot, schedule.isLocked index = false ∧ schedule.slot? index = some slot ∧
        discussion ∈ slot.discussions := by
  unfold openListings openIndices
  simp only [List.mem_flatMap, List.mem_filter, List.mem_range, Bool.not_eq_true',
    mem_discussionsAt_iff]
  constructor
  · rintro ⟨index, ⟨_, hopen⟩, slot, hslot, hlisted⟩
    exact ⟨index, slot, hopen, hslot, hlisted⟩
  · rintro ⟨index, slot, hopen, hslot, hlisted⟩
    exact ⟨index, ⟨lt_size_of_slot? hslot, hopen⟩, slot, hslot, hlisted⟩

theorem listings_eq_flatMap_range (schedule : Schedule) :
    schedule.listings =
      (List.range schedule.size).flatMap fun index => (schedule.discussionsAt index).getD [] := by
  have hslots : schedule.slots.map Slot.discussions =
      (List.range schedule.size).map fun index => (schedule.discussionsAt index).getD [] := by
    apply List.ext_getElem
    · simp [size]
    · intro index hlt _
      have hindex : index < schedule.slots.length := by simpa using hlt
      simp [discussionsAt, slot?, hindex]
  unfold listings
  rw [List.flatMap_def, List.flatMap_def, hslots]

theorem nodup_openListings (hnodup : schedule.listings.Nodup) : schedule.openListings.Nodup := by
  rw [listings_eq_flatMap_range] at hnodup
  exact hnodup.sublist (List.filter_sublist.flatMap _)

theorem openListings_eq_nil (hnone : schedule.occupiedSlots = []) :
    schedule.openListings = [] := by
  rw [List.eq_nil_iff_forall_not_mem]
  intro discussion hlisted
  obtain ⟨index, slot, hopen, hslot, hlisted⟩ := mem_openListings_iff.1 hlisted
  have hoccupied : index ∈ schedule.occupiedSlots :=
    mem_occupiedSlots_iff.2 ⟨hopen, slot, hslot, List.ne_nil_of_mem hlisted⟩
  rw [hnone] at hoccupied
  cases hoccupied

theorem perm_openListings_modifySlot
    (change : Slot → Slot) (hopen : schedule.isLocked index = false) {slot : Slot}
    (hslot : schedule.slot? index = some slot) :
    ∃ others,
      schedule.openListings.Perm (slot.discussions ++ others) ∧
        (schedule.modifySlot index change).openListings.Perm
          ((change slot).discussions ++ others) := by
  have hindex : index ∈ schedule.openIndices := by
    simp [openIndices, lt_size_of_slot? hslot, hopen]
  have hsplit := List.perm_cons_erase hindex
  have hindices : (schedule.modifySlot index change).openIndices = schedule.openIndices := by
    unfold openIndices
    rw [size_modifySlot]
    rfl
  have hothers : ((schedule.openIndices.erase index).flatMap fun other =>
        ((schedule.modifySlot index change).discussionsAt other).getD []) =
      (schedule.openIndices.erase index).flatMap fun other =>
        (schedule.discussionsAt other).getD [] := by
    apply List.flatMap_congr
    intro other hother
    have hnodup : schedule.openIndices.Nodup := List.nodup_range.filter _
    have hne : index ≠ other := fun heq => hnodup.not_mem_erase (heq ▸ hother)
    rw [discussionsAt, slot?_modifySlot_of_ne change hne, discussionsAt]
  refine ⟨(schedule.openIndices.erase index).flatMap fun other =>
    (schedule.discussionsAt other).getD [], ?_, ?_⟩
  · have hbefore := hsplit.flatMap_right fun other => (schedule.discussionsAt other).getD []
    rwa [List.flatMap_cons, discussionsAt_eq hslot] at hbefore
  · have hafter := hsplit.flatMap_right fun other =>
      ((schedule.modifySlot index change).discussionsAt other).getD []
    rw [List.flatMap_cons, hothers, discussionsAt, slot?_modifySlot_self, hslot] at hafter
    rw [openListings, hindices]
    exact hafter

theorem perm_openListings_remove
    (ledger : Ledger) (hnodup : schedule.openListings.Nodup)
    (hopen : schedule.isLocked index = false) {slot : Slot}
    (hslot : schedule.slot? index = some slot) (hlisted : discussion ∈ slot.discussions) :
    schedule.openListings.Perm
      (discussion :: (schedule.remove ledger index discussion).openListings) := by
  obtain ⟨others, hbefore, hafter⟩ :=
    perm_openListings_modifySlot (fun slot => (slot.remove ledger discussion).1) hopen hslot
  have hslotNodup := (List.nodup_append.1 (hbefore.nodup_iff.1 hnodup)).1
  exact perm_cons_of_remove hslotNodup hlisted hbefore hafter

/-! ## Evictions -/

variable {σ : Type} [RandomSource σ]

/-- What is taken out and what stays behind in the open slots are what was there before. -/
theorem evict_yields
    (ledger : Ledger) (hnodup : schedule.openListings.Nodup) (count : Nat) (source : σ) :
    Yields source
      (fun evicted => evicted.1.length = min count schedule.openListings.length ∧
        (evicted.1 ++ evicted.2.openListings).Perm schedule.openListings)
      (schedule.evict ledger count source) := by
  induction count generalizing schedule source with
  | zero => exact .pure ⟨(Nat.zero_min _).symm, .rfl⟩
  | succ count ih =>
      unfold evict
      refine (evictOne_yields ledger schedule source).bind ?_
      rintro (_ | ⟨discussion, between⟩) later htaken
      · have hnone := openListings_eq_nil htaken
        exact .pure ⟨by simp [hnone], .rfl⟩
      · obtain ⟨index, slot, hopen, hslot, hlisted, rfl⟩ := htaken
        -- the others are taken from a schedule that does not list the first one any more
        have hperm := perm_openListings_remove ledger hnodup hopen hslot hlisted
        have hrest := (List.nodup_cons.1 (hperm.nodup_iff.1 hnodup)).2
        refine (ih hrest later).bind ?_
        rintro ⟨evicted, after⟩ last ⟨hlength, hevicted⟩
        refine .pure ⟨?_, (hevicted.cons discussion).trans hperm.symm⟩
        rw [List.length_cons, hlength, hperm.length_eq, List.length_cons, Nat.succ_min_succ]

/-! ## What stays and what arrives -/

theorem discussionsAt_remove
    (ledger : Ledger) (hnodup : schedule.listings.Nodup) {slot : Slot}
    (hslot : schedule.slot? index = some slot) (hlisted : discussion ∈ slot.discussions)
    (other : Nat) :
    (schedule.remove ledger index discussion).discussionsAt other =
      (schedule.discussionsAt other).map (·.filter (· ≠ discussion)) := by
  unfold remove discussionsAt
  by_cases heq : index = other
  · subst other
    simp [slot?_modifySlot_self, hslot, Slot.discussions_remove]
  · rw [slot?_modifySlot_of_ne _ heq]
    cases hother : schedule.slot? other with
    | none => rfl
    | some otherSlot =>
        have hkept : ∀ listed ∈ otherSlot.discussions, listed ≠ discussion := by
          rintro _ hmem rfl
          exact heq (index_unique_of_nodup_listings hnodup hslot hlisted hother hmem)
        exact congrArg some (List.filter_eq_self.2 (by simpa using hkept)).symm

/-- What is not taken out stays where it is, in the order in which it was there. -/
theorem evict_leaves
    (ledger : Ledger) (hnodup : schedule.listings.Nodup) (count : Nat) (source : σ) :
    Yields source
      (fun evicted => ∀ index, evicted.2.discussionsAt index =
        (schedule.discussionsAt index).map (·.filter (· ∉ evicted.1)))
      (schedule.evict ledger count source) := by
  induction count generalizing schedule source with
  | zero => exact .pure fun index => by simp
  | succ count ih =>
      unfold evict
      refine (evictOne_yields ledger schedule source).bind ?_
      rintro (_ | ⟨discussion, between⟩) later htaken
      · exact .pure fun index => by simp
      · obtain ⟨index, slot, _, hslot, hlisted, rfl⟩ := htaken
        have hslotNodup := nodup_discussions_of_nodup_listings hnodup hslot
        have hperm := perm_listings_remove ledger hslot hslotNodup hlisted
        have hrest := (List.nodup_cons.1 (hperm.nodup_iff.1 hnodup)).2
        refine (ih hrest later).bind ?_
        rintro ⟨evicted, after⟩ last hleaves
        refine .pure fun other => ?_
        rw [hleaves, discussionsAt_remove ledger hnodup hslot hlisted]
        cases schedule.discussionsAt other <;> simp [List.filter_filter, Bool.and_comm]

/-- In every slot some of the discussions in hand have come after those that were there. -/
def Appends (hand : List DiscussionId) (schedule after : Schedule) : Prop :=
  ∀ index, ∃ arrived, arrived.Sublist hand ∧
    after.discussionsAt index = (schedule.discussionsAt index).map (· ++ arrived)

theorem Appends.refl (hand : List DiscussionId) (schedule : Schedule) :
    Appends hand schedule schedule :=
  fun _ => ⟨[], List.nil_sublist hand, by simp⟩

theorem Appends.trans
    {first rest : List DiscussionId} {last : Schedule} (hfirst : Appends first schedule after)
    (hrest : Appends rest after last) : Appends (first ++ rest) schedule last := by
  intro index
  obtain ⟨arrivedFirst, hsublistFirst, hafter⟩ := hfirst index
  obtain ⟨arrivedRest, hsublistRest, hlast⟩ := hrest index
  refine ⟨arrivedFirst ++ arrivedRest, hsublistFirst.append hsublistRest, ?_⟩
  rw [hlast, hafter]
  cases schedule.discussionsAt index <;> simp

theorem appends_assign
    (schedule : Schedule) (ledger : Ledger) (index : Nat) (discussion : DiscussionId) :
    Appends [discussion] schedule (schedule.assign ledger index discussion) := by
  intro other
  unfold assign discussionsAt
  by_cases heq : index = other
  · subst other
    rw [slot?_modifySlot_self]
    cases schedule.slot? index with
    | none => exact ⟨[], List.nil_sublist _, rfl⟩
    | some slot =>
        by_cases hlisted : discussion ∈ slot.discussions
        · exact ⟨[], List.nil_sublist _, by simp [Slot.discussions_assign, hlisted]⟩
        · exact ⟨[discussion], .refl _, by simp [Slot.discussions_assign, hlisted]⟩
  · rw [slot?_modifySlot_of_ne _ heq]
    exact Appends.refl [discussion] schedule other

theorem assignRandomly_appends
    (ledger : Ledger) (schedule : Schedule) (discussion : DiscussionId) (source : σ) :
    Yields source (fun assigned => Appends [discussion] schedule assigned.2)
      (schedule.assignRandomly ledger discussion source) := by
  unfold assignRandomly
  refine (drawElement_yields _ source).bind ?_
  intro chosen later _
  cases chosen with
  | none => exact .pure (.refl [discussion] schedule)
  | some index => exact .pure (appends_assign schedule ledger index discussion)

theorem assignAllRandomly_appends
    (ledger : Ledger) (schedule : Schedule) (hand : List DiscussionId) (source : σ) :
    Yields source (Appends hand schedule) (assignAllRandomly ledger hand schedule source) := by
  induction hand generalizing schedule source with
  | nil => exact .pure (.refl [] schedule)
  | cons discussion rest ih =>
      unfold assignAllRandomly
      refine (assignRandomly_appends ledger schedule discussion source).bind ?_
      rintro ⟨placed, between⟩ later hfirst
      exact (ih between later).imp fun after hrest => hfirst.trans hrest

theorem mutate_eq_some
    {most : Nat} {source rest : σ} {moved : List DiscussionId}
    (hmutate : schedule.mutate ledger most source = some ((moved, after), rest)) :
    ∃ count afterCount between afterEvict,
      drawCount (max most 1) source = some (count, afterCount) ∧
        schedule.evict ledger count afterCount = some ((moved, between), afterEvict) ∧
          assignAllRandomly ledger moved between afterEvict = some (after, rest) := by
  unfold mutate at hmutate
  obtain ⟨⟨count, afterCount⟩, hcount, hrest⟩ := Option.bind_eq_some_iff.1 hmutate
  obtain ⟨⟨⟨evicted, between⟩, afterEvict⟩, hevict, hrest⟩ := Option.bind_eq_some_iff.1 hrest
  obtain ⟨⟨last, afterAssign⟩, hassign, hanswer⟩ := Option.bind_eq_some_iff.1 hrest
  obtain ⟨hsame, rfl⟩ := Prod.mk.inj (Option.some.inj hanswer)
  obtain ⟨rfl, rfl⟩ := Prod.mk.inj hsame
  exact ⟨count, afterCount, between, afterEvict, hcount, hevict, hassign⟩

/-! ## Suitable schedules -/

/-- A schedule with the locks of a snapshot that places nothing twice and lists in its open slots
only what the ledger knows and permits there. -/
structure Suits (snapshot : Snapshot) (schedule : Schedule) : Prop where
  locked : schedule.locked = snapshot.locked
  once : schedule.listings.Nodup
  permitted : ∀ index, schedule.isLocked index = false →
    ∀ discussion ∈ (schedule.discussionsAt index).getD [],
      discussion ∈ snapshot.ledger.discussionIds ∧
        snapshot.ledger.isSlotPermitted discussion index = true

variable {snapshot : Snapshot} {most : Nat} {source rest : σ} {moved : List DiscussionId}

theorem Suits.isLocked (hsuits : schedule.Suits snapshot) (index : Nat) :
    schedule.isLocked index = snapshot.locked.contains index :=
  congrArg (·.contains index) hsuits.locked

theorem Suits.keepsToPermitted (hsuits : schedule.Suits snapshot) :
    schedule.KeepsToPermitted snapshot.ledger :=
  fun index hopen discussion hlisted => (hsuits.permitted index hopen discussion hlisted).2

theorem Suits.evicted
    (hsuits : schedule.Suits snapshot)
    (hmutate : schedule.mutate snapshot.ledger most source = some ((moved, after), rest)) :
    moved.Nodup ∧ moved ⊆ schedule.openListings ∧
      ∃ count later, drawCount (max most 1) source = some (count, later) ∧
        1 ≤ count ∧ count ≤ max 1 most ∧ moved.length = min count schedule.openListings.length := by
  obtain ⟨count, afterCount, between, afterEvict, hcount, hevict, _⟩ := mutate_eq_some hmutate
  have hnodup := nodup_openListings hsuits.once
  obtain ⟨hlength, hperm⟩ :=
    (evict_yields snapshot.ledger hnodup count afterCount).of_eq_some hevict
  obtain ⟨hpos, hle⟩ := drawCount_bounds (by omega) hcount
  refine ⟨(List.nodup_append.1 (hperm.nodup_iff.2 hnodup)).1, ?_,
    count, afterCount, hcount, hpos, by omega, hlength⟩
  exact fun discussion hmoved => hperm.subset (List.mem_append_left _ hmoved)

/-- What was not moved is where it was, and what was moved into a slot comes after it. -/
theorem Suits.discussionsAt_mutate
    (hsuits : schedule.Suits snapshot)
    (hmutate : schedule.mutate snapshot.ledger most source = some ((moved, after), rest))
    (index : Nat) :
    ∃ arrived, arrived.Sublist moved ∧
      after.discussionsAt index =
        (schedule.discussionsAt index).map (·.filter (· ∉ moved) ++ arrived) := by
  obtain ⟨count, afterCount, between, afterEvict, _, hevict, hassign⟩ := mutate_eq_some hmutate
  have hleaves :=
    (evict_leaves snapshot.ledger hsuits.once count afterCount).of_eq_some hevict index
  obtain ⟨arrived, hsublist, hafter⟩ :=
    (assignAllRandomly_appends snapshot.ledger between moved afterEvict).of_eq_some hassign index
  refine ⟨arrived, hsublist, ?_⟩
  rw [hafter, hleaves, Option.map_map]
  rfl

theorem Suits.handling
    (hsuits : schedule.Suits snapshot)
    (hhandling : Handling snapshot.ledger (Excludes snapshot.ledger) [] schedule [] after) :
    after.Suits snapshot ∧ schedule.LeavesLocked after ∧
      after.listings.Perm schedule.listings := by
  have hleaves := hhandling.leavesLocked
  have hperm := hhandling.perm_listings hsuits.keepsToPermitted hsuits.once
  refine ⟨⟨hleaves.locked.trans hsuits.locked, hperm.nodup_iff.2 hsuits.once, ?_⟩, hleaves, hperm⟩
  intro index hopen discussion hlisted
  have hpermitted :=
    hhandling.keepsToPermitted hsuits.keepsToPermitted index hopen discussion hlisted
  exact ⟨Ledger.mem_discussionIds_of_isSlotPermitted hpermitted, hpermitted⟩

/-! ## Scoring -/

/-- The same locks and in every slot the same list; who attends what may differ. -/
structure ListsAs (schedule after : Schedule) : Prop where
  locked : after.locked = schedule.locked
  discussions : after.slots.map Slot.discussions = schedule.slots.map Slot.discussions

theorem ListsAs.listings (hsame : schedule.ListsAs after) : after.listings = schedule.listings := by
  unfold Schedule.listings
  rw [List.flatMap_def, List.flatMap_def, hsame.discussions]

theorem ListsAs.discussionsAt (hsame : schedule.ListsAs after) (index : Nat) :
    after.discussionsAt index = schedule.discussionsAt index := by
  unfold Schedule.discussionsAt slot?
  rw [← List.getElem?_map, ← List.getElem?_map, hsame.discussions]

theorem ListsAs.suits (hsame : schedule.ListsAs after) (hsuits : schedule.Suits snapshot) :
    after.Suits snapshot where
  locked := hsame.locked.trans hsuits.locked
  once := hsame.listings ▸ hsuits.once
  permitted index hopen discussion hlisted := by
    rw [hsame.discussionsAt] at hlisted
    rw [isLocked, hsame.locked] at hopen
    exact hsuits.permitted index hopen discussion hlisted

theorem discussions_scoreSlots
    {validation : Validation} {slots scored : List Slot} {score : Score}
    (hscore : scoreSlots ledger validation slots = .ok (scored, score)) :
    scored.map Slot.discussions = slots.map Slot.discussions := by
  induction slots generalizing scored score with
  | nil =>
      obtain ⟨rfl, _⟩ := Prod.mk.inj (Except.ok.inj hscore)
      rfl
  | cons slot rest ih =>
      obtain ⟨first, others, _, _, hfirst, hothers, rfl, _⟩ := scoreSlots_cons_eq_ok_iff.1 hscore
      have hvalidated := (Slot.score_eq_ok_iff.1 hfirst).1
      rw [List.map_cons, List.map_cons, Slot.discussions_of_validated_eq_ok hvalidated, ih hothers]

theorem listsAs_of_scored {score : Score}
    (hscored : snapshot.scored schedule = .ok (after, score)) : schedule.ListsAs after := by
  unfold Snapshot.scored at hscored
  cases hscore : schedule.score snapshot.ledger snapshot.validation with
  | error cause =>
      rw [hscore] at hscored
      cases hscored
  | ok found =>
      rw [hscore] at hscored
      obtain rfl := Except.ok.inj hscored
      obtain ⟨slots, hslots, rfl⟩ := score_eq_ok_iff.1 hscore
      exact ⟨rfl, discussions_scoreSlots hslots⟩

/-! ## Climbs -/

/-- A suitable schedule that places the same discussions, with the same lists in locked slots. -/
structure Rearranges (snapshot : Snapshot) (start schedule : Schedule) : Prop where
  suits : schedule.Suits snapshot
  listings : schedule.listings.Perm start.listings
  kept : ∀ index, snapshot.locked.contains index = true →
    schedule.discussionsAt index = start.discussionsAt index

theorem Suits.rearranges (hsuits : schedule.Suits snapshot) :
    Rearranges snapshot schedule schedule :=
  ⟨hsuits, .rfl, fun _ _ => rfl⟩

variable {start : Schedule}

theorem Rearranges.scored
    (hrearranges : Rearranges snapshot start schedule) {score : Score}
    (hscored : snapshot.scored schedule = .ok (after, score)) :
    Rearranges snapshot start after := by
  have hsame := listsAs_of_scored hscored
  refine ⟨hsame.suits hrearranges.suits, ?_, fun index hlocked => ?_⟩
  · rw [hsame.listings]
    exact hrearranges.listings
  · rw [hsame.discussionsAt]
    exact hrearranges.kept index hlocked

theorem Rearranges.mutate
    (hrearranges : Rearranges snapshot start schedule)
    (hmutate : schedule.mutate snapshot.ledger most source = some ((moved, after), rest)) :
    Rearranges snapshot start after := by
  have hhandling := (handling_mutate snapshot.ledger schedule most source).of_eq_some hmutate
  obtain ⟨hsuits, hleaves, hperm⟩ := hrearranges.suits.handling hhandling
  refine ⟨hsuits, hperm.trans hrearranges.listings, fun index hlocked => ?_⟩
  rw [hleaves.discussionsAt ((hrearranges.suits.isLocked index).trans hlocked)]
  exact hrearranges.kept index hlocked

theorem Rearranges.mutant
    (hrearranges : Rearranges snapshot start schedule) {mutant : Candidate}
    (hmutant : snapshot.mutant most schedule source = .ok (mutant, rest)) :
    Rearranges snapshot start mutant.schedule := by
  unfold Snapshot.mutant at hmutant
  obtain ⟨⟨⟨moved, after⟩, later⟩, hmutate, hrest⟩ := bind_eq_ok.1 hmutant
  obtain ⟨⟨scored, score⟩, hscored, hlast⟩ := bind_eq_ok.1 hrest
  obtain ⟨rfl, _⟩ := Prod.mk.inj (Except.ok.inj hlast)
  exact (hrearranges.mutate (drawn_eq_ok.1 hmutate)).scored hscored

theorem Suits.climb
    (hsuits : schedule.Suits snapshot) {clock : Clock} {budget : Nat} {kept : Kept}
    (hclimb : snapshot.climb clock budget most schedule source = .ok (kept, rest)) :
    Rearranges snapshot schedule kept.candidate.schedule := by
  unfold Snapshot.climb at hclimb
  obtain ⟨⟨scored, score⟩, hscored, hsteps⟩ := bind_eq_ok.1 hclimb
  obtain ⟨path, hpath, hlast, _⟩ := Snapshot.climbFrom_eq_ok hsteps
  have hstart : Rearranges snapshot schedule scored := hsuits.rearranges.scored hscored
  have hpathAll : ∀ candidate ∈ path, Rearranges snapshot schedule candidate.schedule :=
    hpath.forall_mem (fun _ _ _ _ hcurrent hmutant => hcurrent.mutant hmutant) hstart
  rcases List.mem_cons.1 (List.mem_of_getLast? hlast) with hsame | hmem
  · rw [hsame]
    exact hstart
  · exact hpathAll kept.candidate hmem

end Schedule

namespace Snapshot

/-- However many discussions a mutation is to move at most, it moves different ones out of open
slots, as many as it drew a number for unless there are fewer, and all of them are in open slots
again when it ends; the others have stayed where they were.  A climb that succeeds has only moved
discussions, whatever happened to it in between. -/
theorem mutation_loses_and_duplicates_nothing
    {snapshot : Snapshot} {schedule : Schedule} (hsuits : schedule.Suits snapshot)
    {σ : Type} [RandomSource σ] (most : Nat) (source : σ) :
    (DrawsReturn source →
      ∃ answer, schedule.mutate snapshot.ledger most source = some answer) ∧
    (∀ moved after rest,
      schedule.mutate snapshot.ledger most source = some ((moved, after), rest) →
        moved.Nodup ∧ moved ⊆ schedule.openListings ∧
        (∃ count later, drawCount (max most 1) source = some (count, later) ∧
          1 ≤ count ∧ count ≤ max 1 most ∧
          moved.length = min count schedule.openListings.length) ∧
        after.Suits snapshot ∧ after.size = schedule.size ∧
        after.listings.Perm schedule.listings ∧
        (∀ index, snapshot.locked.contains index = true →
          after.slot? index = schedule.slot? index) ∧
        ∀ index, ∃ arrived, arrived.Sublist moved ∧
          after.discussionsAt index =
            (schedule.discussionsAt index).map (·.filter (· ∉ moved) ++ arrived)) ∧
    ∀ clock budget kept rest,
      snapshot.climb clock budget most schedule source = .ok (kept, rest) →
        kept.candidate.schedule.Suits snapshot ∧
        kept.candidate.schedule.listings.Perm schedule.listings ∧
        ∀ index, snapshot.locked.contains index = true →
          kept.candidate.schedule.discussionsAt index = schedule.discussionsAt index := by
  have hhandling := Schedule.handling_mutate snapshot.ledger schedule most source
  refine ⟨hhandling.exists_some, ?_, ?_⟩
  · intro moved after rest hmutate
    obtain ⟨hafter, hleaves, hperm⟩ := hsuits.handling (hhandling.of_eq_some hmutate)
    obtain ⟨hdistinct, hopen, hcount⟩ := hsuits.evicted hmutate
    refine ⟨hdistinct, hopen, hcount, hafter, hleaves.size, hperm, fun index hlocked => ?_,
      hsuits.discussionsAt_mutate hmutate⟩
    exact hleaves.kept index ((hsuits.isLocked index).trans hlocked)
  · intro clock budget kept rest hclimb
    have hrearranges := hsuits.climb hclimb
    exact ⟨hrearranges.suits, hrearranges.listings, hrearranges.kept⟩

/-- The last slot is locked; the talk in it is not known to the ledger. -/
def lockedAside : Snapshot := { contested with locked := SlotSet.ofList [2], slotCount := 3 }

def apart : Schedule where
  slots := [((∅ : Slot).assign contestedLedger ⟨1⟩).1, ((∅ : Slot).assign contestedLedger ⟨0⟩).1,
    ((∅ : Slot).assign contestedLedger ⟨7⟩).1]
  locked := SlotSet.ofList [2]

theorem apart_suits : apart.Suits lockedAside where
  locked := rfl
  once := by decide
  permitted index hopen := by
    match index with
    | 0 => decide
    | 1 => decide
    | 2 => cases hopen
    | index + 3 => simp [Schedule.discussionsAt, Schedule.slot?, apart]

theorem apart_fresh : apart.Fresh lockedAside.ledger := by
  have hfresh : ∀ discussion, ((∅ : Slot).assign contestedLedger discussion).1.Fresh
      contestedLedger :=
    (Slot.fresh_empty _).assign contestedLedger_reachable.coherent
  intro index slot hslot
  match index with
  | 0 => exact Option.some.inj hslot ▸ hfresh ⟨1⟩
  | 1 => exact Option.some.inj hslot ▸ hfresh ⟨0⟩
  | 2 => exact Option.some.inj hslot ▸ hfresh ⟨7⟩
  | index + 3 => cases hslot

/-- Even if none are to be moved, one is. -/
theorem mutation_loses_and_duplicates_nothing_of_apart :
    apart.Suits lockedAside ∧
      (∃ moved after rest,
        apart.mutate contestedLedger 0 (⟨[3, 1, 4]⟩ : WordList) = some ((moved, after), rest) ∧
          moved.length = 1 ∧ after.Suits lockedAside ∧
          after.listings.Perm [⟨1⟩, ⟨0⟩, ⟨7⟩] ∧ after.slot? 2 = apart.slot? 2) ∧
      ∃ kept rest,
        lockedAside.climb {} 3 2 apart (⟨[3, 1, 4]⟩ : WordList) = .ok (kept, rest) ∧
          kept.candidate.schedule.listings.Perm [⟨1⟩, ⟨0⟩, ⟨7⟩] ∧
          kept.candidate.schedule.discussionsAt 2 = some [⟨7⟩] := by
  have hlistings : apart.listings = [⟨1⟩, ⟨0⟩, ⟨7⟩] := by decide
  have hreturn := WordList.drawsReturn ⟨[3, 1, 4]⟩
  refine ⟨apart_suits, ?_, ?_⟩
  · obtain ⟨hreturns, hmutates, _⟩ :=
      mutation_loses_and_duplicates_nothing apart_suits 0 (⟨[3, 1, 4]⟩ : WordList)
    obtain ⟨⟨⟨moved, after⟩, rest⟩, hmutate⟩ := hreturns hreturn
    obtain ⟨_, _, ⟨count, _, _, hpos, hle, hlength⟩, hafter, _, hperm, hkept, _⟩ :=
      hmutates moved after rest hmutate
    have hopen : apart.openListings.length = 2 := by decide
    refine ⟨moved, after, rest, hmutate, by omega, hafter, hlistings ▸ hperm, hkept 2 (by decide)⟩
  · obtain ⟨_, _, hclimbs⟩ :=
      mutation_loses_and_duplicates_nothing apart_suits 2 (⟨[3, 1, 4]⟩ : WordList)
    have hcoherent : lockedAside.ledger.Coherent := contestedLedger_reachable.coherent
    obtain ⟨⟨kept, rest⟩, hclimb⟩ :=
      (climb_delivers_fresh hcoherent {} 3 2 apart_fresh (⟨[3, 1, 4]⟩ : WordList)).exists_ok hreturn
    obtain ⟨_, hperm, hkept⟩ := hclimbs {} 3 kept rest hclimb
    exact ⟨kept, rest, hclimb, hlistings ▸ hperm, hkept 2 (by decide)⟩

end Snapshot

end Unconference
