import Unconference.Proofs.SlotSet
import Mathlib.Data.Finset.Card
import Mathlib.Data.Finset.Range

/-!
# Sets of slot indices are finite sets

A set of slot indices is compared by its words, so it must not matter how it was built.  Its last
word always has a member, whatever was inserted and erased: there are exactly as many words as it
takes to store the greatest member.  Hence sets with the same members have the same words.
-/

namespace Unconference

namespace SlotSet

/-- The sets that are built step by step, together with the members they are meant to have. -/
inductive Built : SlotSet → Finset Nat → Prop
  | empty : Built ∅ ∅
  | full (count : Nat) : Built (full count) (Finset.range count)
  | ofList (indices : List Nat) : Built (ofList indices) indices.toFinset
  | insert {set : SlotSet} {members : Finset Nat} (index : Nat) :
      Built set members → Built (set.insert index) (Insert.insert index members)
  | erase {set : SlotSet} {members : Finset Nat} (index : Nat) :
      Built set members → Built (set.erase index) (members.erase index)

/-- There are no words, or there is a member in the last one. -/
def EndsOccupied (set : SlotSet) : Prop :=
  set.words = [] ∨
    ∃ index, set.contains index = true ∧ index / wordBits + 1 = set.words.length

variable {set other : SlotSet}

/-! ## The last word -/

theorem contains_of_getLast?
    {word : BitVec 64} {index : Nat} (hlast : set.words.getLast? = some word)
    (hindex : index / wordBits + 1 = set.words.length) :
    set.contains index = word.getLsbD (index % wordBits) := by
  rw [List.getLast?_eq_getElem?] at hlast
  have hposition : index / wordBits = set.words.length - 1 := Nat.eq_sub_of_add_eq hindex
  unfold contains wordAt
  rw [hposition, hlast]
  rfl

theorem exists_getLsbD_of_ne_zero {word : BitVec 64} (hword : word ≠ 0) :
    ∃ bit < wordBits, word.getLsbD bit = true := by
  by_contra hnone
  apply hword
  apply BitVec.eq_of_getLsbD_eq
  intro bit hbit
  rw [BitVec.ofNat_eq_ofNat, BitVec.getLsbD_zero, ← Bool.not_eq_true]
  exact fun hset => hnone ⟨bit, hbit, hset⟩

theorem endsOccupied_iff :
    set.EndsOccupied ↔ ∀ word, set.words.getLast? = some word → word ≠ 0 := by
  constructor
  · rintro (hnone | ⟨index, hmember, hindex⟩) word hlast
    · simp [hnone] at hlast
    · rw [contains_of_getLast? hlast hindex] at hmember
      rintro rfl
      simp at hmember
  · intro hwords
    cases hlast : set.words.getLast? with
    | none => exact .inl (List.getLast?_eq_none_iff.1 hlast)
    | some word =>
        obtain ⟨bit, hbit, hset⟩ := exists_getLsbD_of_ne_zero (hwords word hlast)
        have hpos : 0 < set.words.length :=
          List.length_pos_of_mem (List.mem_of_getLast? hlast)
        have hplace : ((set.words.length - 1) * wordBits + bit) / wordBits + 1 =
            set.words.length := by
          unfold wordBits at hbit ⊢
          omega
        refine .inr ⟨(set.words.length - 1) * wordBits + bit, ?_, hplace⟩
        rw [contains_of_getLast? hlast hplace, Nat.mul_add_mod', Nat.mod_eq_of_lt hbit]
        exact hset

theorem endsOccupied_empty : EndsOccupied ∅ := .inl rfl

theorem length_insert (set : SlotSet) (index : Nat) :
    (set.insert index).words.length = max set.words.length (index / wordBits + 1) := by
  simp only [insert, padded, List.length_modify, List.length_append, List.length_replicate]
  omega

theorem EndsOccupied.insert (hset : set.EndsOccupied) (index : Nat) :
    (set.insert index).EndsOccupied := by
  right
  rw [length_insert]
  by_cases hgrows : set.words.length ≤ index / wordBits + 1
  · refine ⟨index, ?_, by omega⟩
    simp [contains_insert]
  · rcases hset with hnone | ⟨last, hlast, hlength⟩
    · simp [hnone] at hgrows
    · refine ⟨last, ?_, by omega⟩
      simp [contains_insert, hlast]

theorem endsOccupied_ofList (indices : List Nat) : (ofList indices).EndsOccupied := by
  suffices h : ∀ set : SlotSet, set.EndsOccupied → (indices.foldl insert set).EndsOccupied from
    h ∅ endsOccupied_empty
  induction indices with
  | nil => exact fun _ hset => hset
  | cons index rest ih => exact fun set hset => ih _ (hset.insert index)

theorem endsOccupied_full (count : Nat) : (full count).EndsOccupied := by
  have hlength : (full count).words.length = (count + 63) / 64 := by
    unfold full wordBits
    simp only [List.length_append, List.length_replicate]
    split
    · simp only [List.length_nil]
      omega
    · simp only [List.length_singleton]
      omega
  cases count with
  | zero => exact .inl (List.length_eq_zero_iff.1 hlength)
  | succ count =>
      refine .inr ⟨count, by simp, ?_⟩
      rw [hlength]
      unfold wordBits
      omega

theorem getLast?_trimmed_ne_zero {words : List (BitVec 64)} {word : BitVec 64}
    (hlast : (trimmed words).getLast? = some word) : word ≠ 0 := by
  induction words with
  | nil => simp [trimmed] at hlast
  | cons first rest ih =>
      cases hrest : trimmed rest with
      | nil =>
          rw [trimmed, hrest] at hlast
          by_cases hfirst : first = 0
          · simp [hfirst] at hlast
          · simp only [hfirst, if_false, List.getLast?_singleton, Option.some.injEq] at hlast
            exact hlast ▸ hfirst
      | cons kept others =>
          rw [trimmed, hrest] at hlast
          apply ih
          rw [hrest]
          simpa using hlast

theorem endsOccupied_erase (set : SlotSet) (index : Nat) : (set.erase index).EndsOccupied :=
  endsOccupied_iff.2 fun _ hlast => getLast?_trimmed_ne_zero hlast

/-! ## Sets with the same members -/

theorem EndsOccupied.length_le
    (hother : other.EndsOccupied)
    (hsame : ∀ index, other.contains index = true → set.contains index = true) :
    other.words.length ≤ set.words.length := by
  rcases hother with hnone | ⟨index, hmember, hindex⟩
  · simp [hnone]
  · by_contra hlonger
    have hpast : set.words.length * wordBits ≤ index := by
      unfold wordBits at hindex ⊢
      omega
    have hmissing := contains_eq_false_of_le hpast
    rw [hsame index hmember] at hmissing
    cases hmissing

/-- Sets that both end with an occupied word are equal if they have the same members. -/
theorem EndsOccupied.ext
    (hset : set.EndsOccupied) (hother : other.EndsOccupied)
    (hsame : ∀ index, set.contains index = other.contains index) : set = other := by
  have hlength : set.words.length = other.words.length :=
    le_antisymm (hset.length_le fun index hmember => hsame index ▸ hmember)
      (hother.length_le fun index hmember => hsame index ▸ hmember)
  obtain ⟨words⟩ := set
  obtain ⟨others⟩ := other
  congr 1
  apply List.ext_getElem hlength
  intro position hposition hposition'
  apply BitVec.eq_of_getLsbD_eq
  intro bit hbit
  have hword : (position * wordBits + bit) / wordBits = position := by
    unfold wordBits
    omega
  have hplace : (position * wordBits + bit) % wordBits = bit := by
    unfold wordBits
    omega
  have hbits := hsame (position * wordBits + bit)
  simpa [contains, wordAt, hword, hplace, hposition, hposition'] using hbits

/-! ## The list of members -/

theorem pairwise_membersFrom (position : Nat) (words : List (BitVec 64)) :
    (membersFrom position words).Pairwise (· < ·) := by
  induction words generalizing position with
  | nil => exact List.Pairwise.nil
  | cons word rest ih =>
      rw [membersFrom, List.pairwise_append]
      refine ⟨?_, ih (position + 1), ?_⟩
      · rw [List.pairwise_map]
        refine (List.pairwise_lt_range.filter _).imp ?_
        intro bit other hlt
        omega
      · intro index hindex other hother
        have hfirst := ((mem_wordMembers_iff word position index).1 hindex).1
        have hlater := ((mem_membersFrom_iff rest (position + 1) other).1 hother).1
        by_contra hle
        have hdiv := Nat.div_le_div_right (c := wordBits) (Nat.le_of_not_lt hle)
        omega

theorem length_membersFrom (position : Nat) (words : List (BitVec 64)) :
    (membersFrom position words).length = total (words.map bitCount) := by
  induction words generalizing position with
  | nil => rfl
  | cons word rest ih =>
      rw [membersFrom, List.length_append, List.length_map, ← List.countP_eq_length_filter, ih]
      rfl

theorem length_toList (set : SlotSet) : set.toList.length = set.size :=
  length_membersFrom 0 set.words

theorem pairwise_toList (set : SlotSet) : set.toList.Pairwise (· < ·) :=
  pairwise_membersFrom 0 set.words

theorem EndsOccupied.ofList_toList (hset : set.EndsOccupied) : ofList set.toList = set := by
  apply (endsOccupied_ofList set.toList).ext hset
  intro index
  rw [contains_ofList, Bool.eq_iff_iff, decide_eq_true_eq, mem_toList_iff]

theorem EndsOccupied.isEmpty_iff (hset : set.EndsOccupied) :
    set.isEmpty = true ↔ ∀ index, set.contains index = false := by
  constructor
  · intro hempty index
    have hwords : set.words = [] := List.isEmpty_iff.1 hempty
    exact contains_eq_false_of_le (by simp [hwords])
  · intro hnone
    rcases hset with hwords | ⟨index, hmember, _⟩
    · exact List.isEmpty_iff.2 hwords
    · rw [hnone index] at hmember
      cases hmember

/-! ## Built sets -/

theorem Built.endsOccupied {members : Finset Nat} (hbuilt : Built set members) :
    set.EndsOccupied := by
  induction hbuilt with
  | empty => exact endsOccupied_empty
  | full count => exact endsOccupied_full count
  | ofList indices => exact endsOccupied_ofList indices
  | insert index _ ih => exact ih.insert index
  | erase index _ _ => exact endsOccupied_erase _ index

theorem Built.contains_iff {members : Finset Nat} (hbuilt : Built set members) (index : Nat) :
    set.contains index = true ↔ index ∈ members := by
  induction hbuilt with
  | empty => simp
  | full count => simp
  | ofList indices => simp [contains_ofList]
  | insert added _ ih =>
      rw [contains_insert, Bool.or_eq_true, decide_eq_true_eq, ih, Finset.mem_insert,
        eq_comm]
  | erase erased _ ih =>
      rw [contains_erase, Bool.and_eq_true, decide_eq_true_eq, ih, Finset.mem_erase,
        ne_comm]

theorem Built.size_eq_card {members : Finset Nat} (hbuilt : Built set members) :
    set.size = members.card := by
  have hnodup : set.toList.Nodup := set.pairwise_toList.imp ne_of_lt
  have hmembers : set.toList.toFinset = members := by
    ext index
    rw [List.mem_toFinset, mem_toList_iff, hbuilt.contains_iff]
  rw [← length_toList, ← List.toFinset_card_of_nodup hnodup, hmembers]

/-- However a set was built, it has the members that the steps say, and everything that can be asked
of it is told by these.  Its last word is never empty, so it is equal to exactly those sets that
have the same members. -/
theorem built_sets_are_exact_and_canonical
    {set : SlotSet} {members : Finset Nat} (hbuilt : Built set members) :
    (∀ index, set.contains index = true ↔ index ∈ members) ∧
    (∀ word, set.words.getLast? = some word → word ≠ 0) ∧
    (∀ other others, Built other others →
      (set = other ↔ members = others) ∧ (set.words = other.words ↔ members = others)) ∧
    (set.toList.Pairwise (· < ·) ∧ ∀ index, index ∈ set.toList ↔ index ∈ members) ∧
    set.size = members.card ∧
    (set.isEmpty = true ↔ members = ∅) ∧
    (∀ count, set.covers count = true ↔ ∀ index, index < count → index ∈ members) ∧
    ofList set.toList = set := by
  have hcontains := hbuilt.contains_iff
  have hends := hbuilt.endsOccupied
  have hequal : ∀ other others, Built other others → (set = other ↔ members = others) := by
    intro other others hother
    constructor
    · rintro rfl
      ext index
      rw [← hcontains, hother.contains_iff]
    · rintro rfl
      apply hends.ext hother.endsOccupied
      intro index
      rw [Bool.eq_iff_iff, hcontains, hother.contains_iff]
  refine ⟨hcontains, endsOccupied_iff.1 hends, ?_, ⟨set.pairwise_toList, ?_⟩,
    hbuilt.size_eq_card, ?_, ?_, hends.ofList_toList⟩
  · intro other others hother
    refine ⟨hequal other others hother, ?_⟩
    rw [← hequal other others hother]
    exact ⟨fun hwords => congrArg mk hwords, congrArg words⟩
  · intro index
    rw [mem_toList_iff, hcontains]
  · rw [hends.isEmpty_iff, Finset.eq_empty_iff_forall_notMem]
    refine forall_congr' fun index => ?_
    rw [← hcontains, Bool.not_eq_true]
  · intro count
    rw [covers_iff]
    simp only [hcontains]

/-- An index several words away leaves no trace once it is erased. -/
theorem built_sets_are_canonical_about_erased_index :
    Built (((∅ : SlotSet).insert 3).insert 500 |>.erase 500) {3} ∧
      Built (ofList [3]) {3} ∧
      (((∅ : SlotSet).insert 3).insert 500).words.length = 8 ∧
      (((∅ : SlotSet).insert 3).insert 500 |>.erase 500) = ofList [3] ∧
      (((∅ : SlotSet).insert 3).insert 500 |>.erase 500).size = 1 := by
  have herased : Built (((∅ : SlotSet).insert 3).insert 500 |>.erase 500) {3} :=
    .erase 500 (.insert 500 (.insert 3 .empty))
  have hcollected : Built (ofList [3]) {3} := .ofList [3]
  obtain ⟨_, _, hequal, _, hsize, _⟩ := built_sets_are_exact_and_canonical herased
  exact ⟨herased, hcollected, by decide, (hequal _ _ hcollected).1.2 rfl, hsize⟩

end SlotSet

end Unconference
