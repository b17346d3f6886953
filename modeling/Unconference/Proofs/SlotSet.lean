import Unconference.SlotSet

/-!
# The members of a set of slot indices

The list of members is read off the words from the lowest on.  It holds exactly the indices that the
set contains.
-/

namespace Unconference

namespace SlotSet

theorem mem_wordMembers_iff (word : BitVec 64) (position index : Nat) :
    index ∈ ((List.range wordBits).filter word.getLsbD).map (position * wordBits + ·) ↔
      index / wordBits = position ∧ word.getLsbD (index % wordBits) = true := by
  have hbit : index % wordBits < wordBits := Nat.mod_lt _ (by decide)
  have hindex := Nat.div_add_mod' index wordBits
  simp only [List.mem_map, List.mem_filter, List.mem_range]
  constructor
  · rintro ⟨bit, ⟨hlt, hset⟩, rfl⟩
    have hquotient : (position * wordBits + bit) / wordBits = position := by
      rw [Nat.mul_comm, Nat.mul_add_div (by decide), Nat.div_eq_of_lt hlt, Nat.add_zero]
    have hremainder : (position * wordBits + bit) % wordBits = bit := by
      rw [Nat.mul_add_mod', Nat.mod_eq_of_lt hlt]
    rw [hremainder]
    exact ⟨hquotient, hset⟩
  · rintro ⟨rfl, hset⟩
    exact ⟨index % wordBits, ⟨hbit, hset⟩, hindex⟩

/-- The words are counted from `position` on, so the index says which of them to look at. -/
theorem mem_membersFrom_iff (words : List (BitVec 64)) (position index : Nat) :
    index ∈ membersFrom position words ↔
      position ≤ index / wordBits ∧
        (wordAt words (index / wordBits - position)).getLsbD (index % wordBits) = true := by
  induction words generalizing position with
  | nil => simp [membersFrom, wordAt]
  | cons word rest ih =>
      rw [membersFrom, List.mem_append, mem_wordMembers_iff, ih]
      rcases Nat.lt_trichotomy (index / wordBits) position with hlt | rfl | hgt
      · have hpast : ¬ position ≤ index / wordBits := by omega
        have hpast' : ¬ position + 1 ≤ index / wordBits := by omega
        have hother : index / wordBits ≠ position := by omega
        simp [hpast, hpast', hother]
      · have hpast : ¬ index / wordBits + 1 ≤ index / wordBits := by omega
        simp [hpast, wordAt]
      · have hreached : position ≤ index / wordBits := by omega
        have hother : index / wordBits ≠ position := by omega
        have hnext : index / wordBits - position = (index / wordBits - (position + 1)) + 1 := by
          omega
        simp [hreached, hother, hnext, Nat.succ_le_of_lt hgt, wordAt]

theorem mem_toList_iff (set : SlotSet) (index : Nat) :
    index ∈ set.toList ↔ set.contains index = true := by
  unfold toList contains
  rw [mem_membersFrom_iff]
  simp

end SlotSet

end Unconference
