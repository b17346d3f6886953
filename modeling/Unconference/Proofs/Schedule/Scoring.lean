import Unconference.Proofs.Schedule.Listings
import Unconference.Proofs.Slot.Scoring
import Unconference.Search.Greedy

/-!
# Scoring fresh schedules

A schedule whose slots are all fresh is scored as it stands under either validation, and scores at
least what its slots are worth.  Assigning a discussion raises the worth by what it was announced
to add.
-/

namespace Unconference

namespace Schedule

def Fresh (schedule : Schedule) (ledger : Ledger) : Prop :=
  ∀ index slot, schedule.slot? index = some slot → slot.Fresh ledger

/-- The sum over all slots for attendance as it is. -/
def totalScore (schedule : Schedule) (ledger : Ledger) : Score :=
  (schedule.slots.map (·.totalScore ledger)).sum

def worth (schedule : Schedule) (ledger : Ledger) : Nat :=
  total (schedule.slots.map fun slot => ledger.worth slot.discussions)

theorem Fresh.of_mem_slots
    {schedule : Schedule} {ledger : Ledger} (hfresh : schedule.Fresh ledger) :
    ∀ slot ∈ schedule.slots, slot.Fresh ledger := by
  intro slot hmem
  obtain ⟨index, hslot⟩ := List.mem_iff_getElem?.1 hmem
  exact hfresh index slot hslot

/-- Every slot is scored on its own. -/
theorem scoreSlots_cons_eq_ok_iff
    {ledger : Ledger} {validation : Validation} {slot : Slot} {rest after : List Slot}
    {score : Score} :
    scoreSlots ledger validation (slot :: rest) = .ok (after, score) ↔
      ∃ first others firstScore othersScore,
        slot.score ledger validation = .ok (first, firstScore) ∧
          scoreSlots ledger validation rest = .ok (others, othersScore) ∧
            first :: others = after ∧ firstScore + othersScore = score := by
  constructor
  · intro hscore
    unfold scoreSlots at hscore
    obtain ⟨⟨first, firstScore⟩, hfirst, hrest⟩ := bind_eq_ok.1 hscore
    obtain ⟨⟨others, othersScore⟩, hothers, hanswer⟩ := bind_eq_ok.1 hrest
    obtain ⟨hslots, hsum⟩ := Prod.mk.inj (Except.ok.inj hanswer)
    exact ⟨first, others, firstScore, othersScore, hfirst, hothers, hslots, hsum⟩
  · rintro ⟨first, others, firstScore, othersScore, hfirst, hothers, rfl, rfl⟩
    unfold scoreSlots
    exact bind_eq_ok.2 ⟨_, hfirst, bind_eq_ok.2 ⟨_, hothers, rfl⟩⟩

theorem score_eq_ok_iff
    {schedule after : Schedule} {ledger : Ledger} {validation : Validation} {score : Score} :
    schedule.score ledger validation = .ok (after, score) ↔
      ∃ slots, scoreSlots ledger validation schedule.slots = .ok (slots, score) ∧
        { schedule with slots } = after := by
  unfold Schedule.score
  constructor
  · intro hscore
    obtain ⟨⟨slots, total⟩, hslots, hanswer⟩ := bind_eq_ok.1 hscore
    obtain ⟨hafter, rfl⟩ := Prod.mk.inj (Except.ok.inj hanswer)
    exact ⟨slots, hslots, hafter⟩
  · rintro ⟨slots, hslots, rfl⟩
    exact bind_eq_ok.2 ⟨_, hslots, rfl⟩

theorem scoreSlots_of_fresh
    {ledger : Ledger} (hledger : ledger.Coherent) (validation : Validation) {slots : List Slot}
    (hfresh : ∀ slot ∈ slots, slot.Fresh ledger) :
    scoreSlots ledger validation slots =
      .ok (slots, (slots.map (·.totalScore ledger)).sum) := by
  induction slots with
  | nil => rfl
  | cons slot rest ih =>
      have hslot := hfresh slot List.mem_cons_self
      have hrest := ih fun other hmem => hfresh other (List.mem_cons_of_mem slot hmem)
      have hscore := Slot.score_of_not_aggrieved hledger hslot.optimal.not_aggrieved validation
      rw [List.map_cons, List.sum_cons]
      exact scoreSlots_cons_eq_ok_iff.2 ⟨_, _, _, _, hscore, hrest, rfl, rfl⟩

theorem Fresh.score
    {schedule : Schedule} {ledger : Ledger} (hfresh : schedule.Fresh ledger)
    (hledger : ledger.Coherent) (validation : Validation) :
    schedule.score ledger validation = .ok (schedule, schedule.totalScore ledger) := by
  have hslots := scoreSlots_of_fresh hledger validation hfresh.of_mem_slots
  exact score_eq_ok_iff.2 ⟨schedule.slots, hslots, rfl⟩

theorem Fresh.worth_le_score_totalScore
    {schedule : Schedule} {ledger : Ledger} (hfresh : schedule.Fresh ledger)
    (hledger : ledger.Coherent) :
    schedule.worth ledger ≤ (schedule.totalScore ledger).score := by
  unfold worth totalScore
  rw [Slot.score_sum, List.map_map]
  exact total_map_le_total_map fun slot hmem =>
    (hfresh.of_mem_slots slot hmem).worth_le_score_totalScore hledger

/-! ## Single steps -/

theorem Fresh.modifySlot
    {schedule : Schedule} {ledger : Ledger} (hfresh : schedule.Fresh ledger) (index : Nat)
    {change : Slot → Slot} (hchange : ∀ slot, slot.Fresh ledger → (change slot).Fresh ledger) :
    (schedule.modifySlot index change).Fresh ledger := by
  intro other slot hslot
  rcases slot?_modifySlot_eq_some change hslot with ⟨before, rfl, hbefore, rfl⟩ | ⟨_, hslot⟩
  · exact hchange before (hfresh index before hbefore)
  · exact hfresh other slot hslot

theorem Fresh.assign
    {schedule : Schedule} {ledger : Ledger} (hfresh : schedule.Fresh ledger)
    (hledger : ledger.Coherent) (index : Nat) (discussion : DiscussionId) :
    (schedule.assign ledger index discussion).Fresh ledger :=
  hfresh.modifySlot index fun _ hslot => hslot.assign hledger discussion

theorem Fresh.remove
    {schedule : Schedule} {ledger : Ledger} (hfresh : schedule.Fresh ledger) (index : Nat)
    (discussion : DiscussionId) : (schedule.remove ledger index discussion).Fresh ledger :=
  hfresh.modifySlot index fun _ hslot => hslot.remove discussion

theorem Fresh.gainAt_eq
    {schedule : Schedule} {ledger : Ledger} (hfresh : schedule.Fresh ledger)
    (hledger : ledger.Coherent) {index : Nat} (hlt : index < schedule.size)
    (discussion : DiscussionId) :
    schedule.gainAt ledger discussion index =
      ledger.addedWorth ((schedule.discussionsAt index).getD []) discussion := by
  obtain ⟨slot, hslot⟩ := slot?_eq_some_of_lt hlt
  unfold gainAt discussionsAt
  rw [hslot]
  exact (hfresh index slot hslot).optimal.gain_eq hledger discussion

theorem Fresh.worth_assign
    {schedule : Schedule} {ledger : Ledger} (hfresh : schedule.Fresh ledger)
    (hledger : ledger.Coherent) {index : Nat} (hlt : index < schedule.size)
    (discussion : DiscussionId) :
    (schedule.assign ledger index discussion).worth ledger =
      schedule.worth ledger + schedule.gainAt ledger discussion index := by
  obtain ⟨slot, hslot⟩ := slot?_eq_some_of_lt hlt
  obtain ⟨others, hbefore, hafter⟩ :=
    perm_slots_modifySlot (fun slot => (slot.assign ledger discussion).1) hslot
  have hgain : schedule.gainAt ledger discussion index = slot.gain ledger discussion := by
    unfold gainAt
    rw [hslot]
  have hassign := (hfresh index slot hslot).optimal.worth_assign hledger discussion
  unfold worth Schedule.assign
  rw [total_eq_of_perm (hbefore.map _), total_eq_of_perm (hafter.map _), hgain]
  simp only [List.map_cons, total_cons, hassign]
  omega

end Schedule

end Unconference
