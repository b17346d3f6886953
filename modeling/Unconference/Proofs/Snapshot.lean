import Unconference.Proofs.Ledger.Bookkeeping
import Unconference.Snapshot

/-!
# Taking a snapshot

A snapshot is taken of a ledger in which no discussion awaits moderation, as long as there is a slot
left to fill.  Beyond that, strict validation compares the two sides of the ledger, which agree in
every ledger that was built by its operations.
-/

namespace Unconference

/-! ## Moderation -/

namespace Ledger

variable {ledger : Ledger}

/-- The discussions that await moderation. -/
def moderated (ledger : Ledger) : List DiscussionId :=
  ledger.discussionIds.filter fun discussion => !ledger.isPublic discussion

def AllPublic (ledger : Ledger) : Prop :=
  ∀ discussion record, ledger.discussion? discussion = some record → record.isPublic = true

theorem mem_moderated_iff (discussion : DiscussionId) :
    discussion ∈ ledger.moderated ↔
      ∃ record, ledger.discussion? discussion = some record ∧ record.isPublic = false := by
  unfold moderated isPublic
  rw [List.mem_filter, ← discussion?_isSome_iff]
  cases ledger.discussion? discussion <;> simp

theorem moderated_eq_nil_iff (ledger : Ledger) : ledger.moderated = [] ↔ ledger.AllPublic := by
  rw [List.eq_nil_iff_forall_not_mem]
  constructor
  · intro hnone discussion record hrecord
    by_contra hhidden
    exact hnone discussion
      ((mem_moderated_iff discussion).2 ⟨record, hrecord, Bool.eq_false_iff.2 hhidden⟩)
  · intro hpublic discussion hmem
    obtain ⟨record, hrecord, hhidden⟩ := (mem_moderated_iff discussion).1 hmem
    rw [hpublic discussion record hrecord] at hhidden
    cases hhidden

/-- The books agree, so neither way of validating finds anything wrong with them. -/
theorem Coherent.validate_eq (hcoherent : ledger.Coherent) (validation : Validation) :
    ledger.validate validation = .ok () := by
  cases validation with
  | production => rfl
  | strict => exact hcoherent.checkSymmetry_eq

end Ledger

namespace Snapshot

variable {ledger : Ledger} {locked : SlotSet} {slotCount : Nat}

theorem take_of_moderated
    (hmoderated : ¬ ledger.AllPublic) (locked : SlotSet) (slotCount : Nat)
    (prior : Option Schedule) (validation : Validation) :
    take ledger locked slotCount prior validation =
      .error (.moderatedDiscussions ledger.moderated) := by
  have hsome : ledger.moderated ≠ [] := mt (Ledger.moderated_eq_nil_iff ledger).1 hmoderated
  unfold take
  split
  · next hnone => exact absurd hnone hsome
  · rfl

theorem take_of_covered
    (hpublic : ledger.AllPublic) (hcovered : locked.covers slotCount = true)
    (prior : Option Schedule) (validation : Validation) :
    take ledger locked slotCount prior validation = .error .allSlotsLocked := by
  have hnone := (Ledger.moderated_eq_nil_iff ledger).2 hpublic
  unfold Ledger.moderated at hnone
  simp only [take, hnone, if_pos hcovered]

theorem take_of_open
    (hcoherent : ledger.Coherent) (hpublic : ledger.AllPublic)
    (hopen : locked.covers slotCount = false) (prior : Option Schedule)
    (validation : Validation) :
    ∃ snapshot, take ledger locked slotCount prior validation = .ok snapshot := by
  have hnone := (Ledger.moderated_eq_nil_iff ledger).2 hpublic
  unfold Ledger.moderated at hnone
  simp only [take, hnone, if_neg (Bool.eq_false_iff.1 hopen), hcoherent.validate_eq]
  exact ⟨_, rfl⟩

/-- A snapshot is never refused because of another search. -/
theorem take_ne_searchInProgress
    (ledger : Ledger) (locked : SlotSet) (slotCount : Nat) (prior : Option Schedule)
    (validation : Validation) :
    take ledger locked slotCount prior validation ≠ .error .searchInProgress := by
  unfold take
  split
  · split
    · simp
    · split <;> simp
  · simp

end Snapshot

end Unconference
