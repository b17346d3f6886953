import Unconference.Proofs.FirstBest
import Unconference.Proofs.Ledger.Coherence
import Mathlib.Algebra.GroupWithZero.Nat
import Mathlib.Algebra.Order.BigOperators.Group.List

/-!
# What a set of discussions is worth

Users attend one of the discussions that run side by side, so a list of discussions is worth to a
user as much as the one they like best, and altogether the total over all users.  This is the
objective that slots are scored by.  It grows with the list, and what one more discussion adds
shrinks as the list grows.
-/

namespace Unconference

theorem total_eq_sum (numbers : List Nat) : total numbers = numbers.sum := by
  induction numbers with
  | nil => rfl
  | cons number rest ih => simp [ih]

theorem total_eq_of_perm {left right : List Nat} (hperm : left.Perm right) :
    total left = total right := by
  simp only [total_eq_sum]
  exact hperm.sum_eq

theorem total_map_add {α : Type} (elements : List α) (left right : α → Nat) :
    total (elements.map fun element => left element + right element) =
      total (elements.map left) + total (elements.map right) := by
  simp only [total_eq_sum]
  exact List.sum_map_add

theorem total_map_le_total_map {α : Type} {elements : List α} {left right : α → Nat}
    (hle : ∀ element ∈ elements, left element ≤ right element) :
    total (elements.map left) ≤ total (elements.map right) := by
  simp only [total_eq_sum]
  exact List.sum_le_sum hle

theorem total_map_le_mul {α : Type} {elements : List α} {amount : α → Nat} {bound : Nat}
    (hle : ∀ element ∈ elements, amount element ≤ bound) :
    total (elements.map amount) ≤ bound * elements.length := by
  have hsum := List.sum_le_card_nsmul (elements.map amount) bound (by simpa using hle)
  simpa [total_eq_sum, Nat.mul_comm] using hsum

theorem total_map_zero {α : Type} (elements : List α) :
    total (elements.map fun _ => 0) = 0 := by
  simp [total_eq_sum]

/-- What is left out counts nothing. -/
theorem total_map_filter {α : Type} (elements : List α) (keep : α → Bool) (amount : α → Nat) :
    total ((elements.filter keep).map amount) =
      total (elements.map fun element => if keep element then amount element else 0) := by
  induction elements with
  | nil => rfl
  | cons element rest ih => by_cases hkeep : keep element <;> simp [hkeep, ih]

namespace Ledger

/-- The total over all users of the most points that they give to any of the discussions. -/
def worth (ledger : Ledger) (discussions : List DiscussionId) : Nat :=
  total (ledger.userIds.map fun user => most (ledger.interest user) discussions)

/-- The points that users would gain from one more discussion next to the others. -/
def addedWorth (ledger : Ledger) (discussions : List DiscussionId) (discussion : DiscussionId) :
    Nat :=
  total (ledger.userIds.map fun user =>
    ledger.interest user discussion - most (ledger.interest user) discussions)

theorem worth_mono {ledger : Ledger} {few many : List DiscussionId} (hsubset : few ⊆ many) :
    ledger.worth few ≤ ledger.worth many :=
  total_map_le_total_map fun _ _ => most_mono hsubset

theorem worth_append_singleton
    (ledger : Ledger) (discussions : List DiscussionId) (discussion : DiscussionId) :
    ledger.worth (discussions ++ [discussion]) =
      ledger.worth discussions + ledger.addedWorth discussions discussion := by
  unfold worth addedWorth
  rw [← total_map_add]
  congr 1
  apply List.map_congr_left
  intro user _
  rw [most_append, most_cons, most_nil, Nat.max_zero]
  omega

/-- The more discussions there are already, the less another one adds. -/
theorem addedWorth_anti
    {ledger : Ledger} {few many : List DiscussionId} (hsubset : few ⊆ many)
    (discussion : DiscussionId) :
    ledger.addedWorth many discussion ≤ ledger.addedWorth few discussion :=
  total_map_le_total_map fun _ _ => Nat.sub_le_sub_left (most_mono hsubset) _

/-- A sum over those interested in a discussion is one over all users. -/
theorem Coherent.total_interested
    {ledger : Ledger} (hledger : ledger.Coherent) (discussion : DiscussionId)
    (amount : UserId × Nat → Nat) (hzero : ∀ user, amount (user, 0) = 0) :
    total ((ledger.interested discussion).map amount) =
      total (ledger.userIds.map fun user => amount (user, ledger.interest user discussion)) := by
  rw [hledger.interested_eq, List.map_map, total_map_filter]
  congr 1
  apply List.map_congr_left
  intro user _
  by_cases hpos : 0 < ledger.interest user discussion
  · simp [hpos]
  · have hnone : ledger.interest user discussion = 0 := by omega
    simp [hnone, hzero]

theorem addedWorth_eq_zero_of_mem
    {ledger : Ledger} {discussions : List DiscussionId} {discussion : DiscussionId}
    (hmem : discussion ∈ discussions) :
    ledger.addedWorth discussions discussion = 0 := by
  unfold addedWorth
  rw [← total_map_zero ledger.userIds]
  congr 1
  apply List.map_congr_left
  intro user _
  exact Nat.sub_eq_zero_of_le (le_most hmem)

end Ledger

end Unconference
