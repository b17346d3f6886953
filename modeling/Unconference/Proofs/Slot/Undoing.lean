import Unconference.Proofs.Slot.Deltas
import Unconference.Proofs.Slot.Seating

/-!
# Undoing a change

A slot that was filled and emptied for one ledger all along is determined by its list of
discussions.  So a discussion that is put in and taken out again leaves no trace.  The other way
round the discussion goes to the end of the list, and with it goes its precedence among equally
liked ones: everybody attends something they like as much as before, and those who stay with
something else are the former attendees who like it exactly as much.
-/

namespace Unconference

namespace Slot

open Ledger

/-- Slots filled from the empty one by putting discussions in and taking them out. -/
inductive Filled (ledger : Ledger) : Slot → Prop
  | empty : Filled ledger ∅
  | assign {slot : Slot} (discussion : DiscussionId) :
      Filled ledger slot → Filled ledger (slot.assign ledger discussion).1
  | remove {slot : Slot} (discussion : DiscussionId) :
      Filled ledger slot → Filled ledger (slot.remove ledger discussion).1

/-- Takes a discussion out and puts it in again; the number is what this adds. -/
def putBack (slot : Slot) (ledger : Ledger) (discussion : DiscussionId) : Slot × Nat :=
  (slot.remove ledger discussion).1.assign ledger discussion

variable {slot : Slot} {ledger : Ledger} {discussion : DiscussionId}

theorem Filled.tended (hfilled : slot.Filled ledger) : slot.Tended ledger := by
  induction hfilled with
  | empty => exact .empty
  | assign discussion _ ih => exact .assign discussion ih
  | remove discussion _ ih => exact .remove discussion ih

theorem Filled.wellFormed (hfilled : slot.Filled ledger) (hledger : ledger.Coherent) :
    slot.WellFormed := by
  induction hfilled with
  | empty => exact wellFormed_empty
  | assign discussion _ ih => exact ih.assign hledger discussion
  | remove discussion _ ih => exact ih.remove ledger discussion

theorem Filled.fresh (hfilled : slot.Filled ledger) (hledger : ledger.Coherent) :
    slot.Fresh ledger :=
  hfilled.tended.fresh hledger

theorem Filled.atRest (hfilled : slot.Filled ledger) (hledger : ledger.Coherent) :
    slot.AtRest ledger :=
  (hfilled.wellFormed hledger).atRest (hfilled.fresh hledger).optimal

/-! ## Putting in and taking out -/

theorem Filled.discussions_assign_remove
    (hfilled : slot.Filled ledger) (hledger : ledger.Coherent)
    (hmem : discussion ∉ slot.discussions) :
    ((slot.assign ledger discussion).1.remove ledger discussion).1.discussions =
      slot.discussions := by
  have hnodup := ((hfilled.wellFormed hledger).assign hledger discussion).nodup
  rw [discussions_remove, filter_ne_eq_erase hnodup, discussions_assign, if_neg hmem,
    List.erase_append_right _ hmem, List.erase_cons_head, List.append_nil]

theorem Filled.remove_assign
    (hfilled : slot.Filled ledger) (hledger : ledger.Coherent)
    (hmem : discussion ∉ slot.discussions) :
    (slot.assign ledger discussion).1.remove ledger discussion =
      (slot, (slot.assign ledger discussion).2) := by
  have hassigned := hfilled.assign discussion
  have hrest := hfilled.atRest hledger
  have hsame := hfilled.discussions_assign_remove hledger hmem
  have hlisted : discussion ∈ (slot.assign ledger discussion).1.discussions := by
    rw [discussions_assign, if_neg hmem]
    simp
  apply Prod.ext
  · exact ((hassigned.remove discussion).fresh hledger).eq_of_discussions_eq
      (hfilled.fresh hledger) hsame
  · rw [remove_snd, assign_snd, (hassigned.atRest hledger).loss_eq hlisted, hsame,
      hrest.optimal.gain_eq hledger]

/-! ## Taking out and putting in -/

section

variable (hfilled : slot.Filled ledger) (hledger : ledger.Coherent)

include hfilled hledger

theorem Filled.discussions_putBack (discussion : DiscussionId) :
    (slot.putBack ledger discussion).1.discussions =
      slot.discussions.erase discussion ++ [discussion] := by
  have hnodup := (hfilled.wellFormed hledger).nodup
  unfold putBack
  rw [discussions_assign, discussions_remove, if_neg (by simp), filter_ne_eq_erase hnodup]

theorem Filled.perm_discussions_putBack (hmem : discussion ∈ slot.discussions) :
    (slot.putBack ledger discussion).1.discussions.Perm slot.discussions := by
  rw [hfilled.discussions_putBack hledger]
  exact (List.perm_append_singleton _ _).trans (List.perm_cons_erase hmem).symm

theorem Filled.putBack_snd (hmem : discussion ∈ slot.discussions) :
    (slot.putBack ledger discussion).2 = (slot.remove ledger discussion).2 := by
  have hrest := hfilled.atRest hledger
  unfold putBack
  rw [assign_snd, remove_snd, (hrest.remove discussion).optimal.gain_eq hledger,
    hrest.loss_eq hmem]

theorem Filled.atRest_putBack (discussion : DiscussionId) :
    (slot.putBack ledger discussion).1.AtRest ledger :=
  ((hfilled.remove discussion).assign discussion).atRest hledger

theorem Filled.currentInterest_putBack (hmem : discussion ∈ slot.discussions) (user : UserId) :
    (slot.putBack ledger discussion).1.currentInterest ledger user =
      slot.currentInterest ledger user := by
  have hperm := hfilled.perm_discussions_putBack hledger hmem
  rw [(hfilled.atRest_putBack hledger discussion).optimal user,
    (hfilled.atRest hledger).optimal user]
  exact le_antisymm (most_mono hperm.subset) (most_mono hperm.symm.subset)

theorem Filled.totalScore_putBack (hmem : discussion ∈ slot.discussions) :
    (slot.putBack ledger discussion).1.totalScore ledger = slot.totalScore ledger := by
  have hrest := hfilled.atRest hledger
  have hlost := hrest.score_remove hledger discussion
  have hadded := (hrest.remove discussion).score_assign hledger discussion
  have hequal := hfilled.putBack_snd hledger hmem
  apply totalScore_eq_of_perm (hfilled.perm_discussions_putBack hledger hmem)
  unfold putBack at hequal ⊢
  rw [assign_snd, remove_snd] at hequal
  omega

theorem Filled.attending_putBack (discussion : DiscussionId) (user : UserId) :
    (slot.putBack ledger discussion).1.attending user =
      if most (ledger.interest user) (slot.discussions.filter (· ≠ discussion)) <
          ledger.interest user discussion
      then some discussion
      else (slot.remove ledger discussion).1.attending user := by
  have habsent : discussion ∉ (slot.remove ledger discussion).1.discussions := by simp
  have hremoved := ((hfilled.atRest hledger).remove discussion).optimal user
  rw [discussions_remove] at hremoved
  unfold putBack
  rw [attending_assign hledger habsent, hremoved]

/-- Whoever attends something else stays there. -/
theorem Filled.attending_putBack_of_ne (hmem : discussion ∈ slot.discussions) {user : UserId}
    (hother : slot.attending user ≠ some discussion) :
    (slot.putBack ledger discussion).1.attending user = slot.attending user := by
  have hmost := (hfilled.atRest hledger).most_filter_of_ne hother
  have hle : ledger.interest user discussion ≤ most (ledger.interest user) slot.discussions :=
    le_most hmem
  rw [hfilled.attending_putBack hledger, hmost, if_neg (by omega),
    attending_remove slot ledger hmem, if_neg hother]

/-- Whoever attended the discussion comes back unless they like something else as much. -/
theorem Filled.attending_putBack_ne_iff {user : UserId}
    (hattending : slot.attending user = some discussion) :
    (slot.putBack ledger discussion).1.attending user ≠ some discussion ↔
      ∃ other ∈ slot.discussions, other ≠ discussion ∧
        ledger.interest user other = ledger.interest user discussion := by
  have hrest := hfilled.atRest hledger
  have hpos := (hfilled.fresh hledger).interest_pos hattending
  have hgone := hrest.toWellFormed.attending_remove_ne ledger discussion user
  have hcurrent := hrest.optimal user
  rw [currentInterest_eq, hattending, Option.map_some, Option.getD_some] at hcurrent
  rw [hfilled.attending_putBack hledger]
  constructor
  · intro hmoved
    have hkept : ledger.interest user discussion - 1 <
        most (ledger.interest user) (slot.discussions.filter (· ≠ discussion)) := by
      split at hmoved
      · exact absurd rfl hmoved
      · omega
    obtain ⟨other, hother, hlikes⟩ := lt_most_iff.1 hkept
    obtain ⟨hlisted, hne⟩ := List.mem_filter.1 hother
    have hle : ledger.interest user other ≤ most (ledger.interest user) slot.discussions :=
      le_most hlisted
    exact ⟨other, hlisted, by simpa using hne, by omega⟩
  · rintro ⟨other, hlisted, hne, hequal⟩
    have hle : ledger.interest user other ≤
        most (ledger.interest user) (slot.discussions.filter (· ≠ discussion)) :=
      le_most (List.mem_filter.2 ⟨hlisted, by simpa using hne⟩)
    rw [if_neg (by omega)]
    exact hgone

end

/-- Under one ledger, taking a discussion out again right after it was put in restores the slot.
Putting one in again after it was taken out moves it to the end of the list and nothing else, but
for the former attendees who like another discussion of the slot exactly as much. -/
theorem assign_and_remove_undo_each_other
    {ledger : Ledger} (hledger : ledger.Reachable) {slot : Slot} (hfilled : slot.Filled ledger)
    (discussion : DiscussionId) :
    (discussion ∉ slot.discussions →
      (slot.assign ledger discussion).1.remove ledger discussion =
        (slot, (slot.assign ledger discussion).2)) ∧
    (discussion ∈ slot.discussions →
      (slot.putBack ledger discussion).2 = (slot.remove ledger discussion).2 ∧
      (slot.putBack ledger discussion).1.discussions =
        slot.discussions.erase discussion ++ [discussion] ∧
      (∀ user, (slot.putBack ledger discussion).1.currentInterest ledger user =
        slot.currentInterest ledger user) ∧
      (∀ validation, ∃ score,
        slot.score ledger validation = .ok (slot, score) ∧
        (slot.putBack ledger discussion).1.score ledger validation =
          .ok ((slot.putBack ledger discussion).1, score)) ∧
      ∀ user, (slot.putBack ledger discussion).1.attending user ≠ slot.attending user ↔
        slot.attending user = some discussion ∧
          ∃ other ∈ slot.discussions, other ≠ discussion ∧
            ledger.interest user other = ledger.interest user discussion) := by
  have hcoherent := hledger.coherent
  refine ⟨hfilled.remove_assign hcoherent, fun hmem => ⟨hfilled.putBack_snd hcoherent hmem,
    hfilled.discussions_putBack hcoherent discussion,
    hfilled.currentInterest_putBack hcoherent hmem, fun validation => ?_, fun user => ?_⟩⟩
  · have hafter := (hfilled.atRest_putBack hcoherent discussion).score hcoherent validation
    rw [hfilled.totalScore_putBack hcoherent hmem] at hafter
    exact ⟨_, (hfilled.atRest hcoherent).score hcoherent validation, hafter⟩
  · by_cases hattending : slot.attending user = some discussion
    · rw [hattending, hfilled.attending_putBack_ne_iff hcoherent hattending]
      simp
    · rw [hfilled.attending_putBack_of_ne hcoherent hmem hattending]
      simp [hattending]

def twoOfThree : Slot :=
  (((∅ : Slot).assign (threeTalks 50 50 80) ⟨0⟩).1.assign (threeTalks 50 50 80) ⟨1⟩).1

theorem twoOfThree_filled : twoOfThree.Filled (threeTalks 50 50 80) :=
  .assign _ (.assign _ .empty)

/-- The third talk comes and goes.  The first one, liked as much as the second, loses its place. -/
theorem assign_and_remove_undo_each_other_in_twoOfThree :
    (threeTalks 50 50 80).Reachable ∧ twoOfThree.Filled (threeTalks 50 50 80) ∧
      (⟨2⟩ : DiscussionId) ∉ twoOfThree.discussions ∧
      (twoOfThree.assign (threeTalks 50 50 80) ⟨2⟩).1.attending ⟨0⟩ = some ⟨2⟩ ∧
      (twoOfThree.assign (threeTalks 50 50 80) ⟨2⟩).1.remove (threeTalks 50 50 80) ⟨2⟩ =
        (twoOfThree, 30) ∧
      (⟨0⟩ : DiscussionId) ∈ twoOfThree.discussions ∧
      (twoOfThree.putBack (threeTalks 50 50 80) ⟨0⟩).2 =
        (twoOfThree.remove (threeTalks 50 50 80) ⟨0⟩).2 ∧
      (twoOfThree.putBack (threeTalks 50 50 80) ⟨0⟩).1.discussions = [⟨1⟩, ⟨0⟩] ∧
      (twoOfThree.putBack (threeTalks 50 50 80) ⟨0⟩).1.attending ⟨0⟩ ≠
        twoOfThree.attending ⟨0⟩ := by
  have hreach := threeTalks_reachable 50 50 80
  obtain ⟨hundone, _⟩ := assign_and_remove_undo_each_other hreach twoOfThree_filled ⟨2⟩
  obtain ⟨_, hput⟩ := assign_and_remove_undo_each_other hreach twoOfThree_filled ⟨0⟩
  obtain ⟨hequal, hlist, _, _, hmoved⟩ := hput (by decide)
  have hthirty : (twoOfThree.assign (threeTalks 50 50 80) ⟨2⟩).2 = 30 := by decide
  refine ⟨hreach, twoOfThree_filled, by decide, by decide, ?_, by decide, hequal, hlist, ?_⟩
  · rw [hundone (by decide), hthirty]
  · exact (hmoved ⟨0⟩).2 ⟨by decide, ⟨1⟩, by decide, by decide, by decide⟩

end Slot

end Unconference
