import Unconference.Total

/-!
# Sets of slot indices

A set of slot indices is kept as a bitmap of 64-bit words, the lowest index in the lowest bit of
the first word.  Only the words up to the last occupied one are stored, so that two sets with the
same members have the same words: inserting never adds an empty word at the end, and erasing
drops the empty words that it leaves there.
-/

namespace Unconference

/-- Bits in one word of a set. -/
def wordBits : Nat := 64

structure SlotSet where
  words : List (BitVec 64)
deriving DecidableEq

namespace SlotSet

/-- The word in which only the bit of `index` is set. -/
def bit (index : Nat) : BitVec 64 := BitVec.twoPow 64 (index % wordBits)

def empty : SlotSet := ⟨[]⟩

instance : EmptyCollection SlotSet := ⟨empty⟩

instance : Inhabited SlotSet := ⟨empty⟩

/-- A word of the bitmap; those that are not stored are empty. -/
def wordAt (words : List (BitVec 64)) (position : Nat) : BitVec 64 := words[position]?.getD 0

def contains (set : SlotSet) (index : Nat) : Bool :=
  (wordAt set.words (index / wordBits)).getLsbD (index % wordBits)

/-- As many empty words behind the stored ones as it takes to store `count` words. -/
def padded (count : Nat) (words : List (BitVec 64)) : List (BitVec 64) :=
  words ++ List.replicate (count - words.length) 0

def insert (set : SlotSet) (index : Nat) : SlotSet :=
  ⟨(padded (index / wordBits + 1) set.words).modify (index / wordBits) (· ||| bit index)⟩

/-- The words up to the last one that is not empty. -/
def trimmed : List (BitVec 64) → List (BitVec 64)
  | [] => []
  | word :: rest =>
    match trimmed rest with
    | [] => if word = 0 then [] else [word]
    | kept => word :: kept

def erase (set : SlotSet) (index : Nat) : SlotSet :=
  ⟨trimmed (set.words.modify (index / wordBits) (· &&& ~~~ bit index))⟩

def ofList (indices : List Nat) : SlotSet := indices.foldl insert ∅

/-- The word in which the lowest `count` bits are set. -/
def lowestBits (count : Nat) : BitVec 64 := BitVec.allOnes 64 >>> (wordBits - count)

/-- All indices below `count`. -/
def full (count : Nat) : SlotSet :=
  ⟨List.replicate (count / wordBits) (BitVec.allOnes 64) ++
    if count % wordBits = 0 then [] else [lowestBits (count % wordBits)]⟩

def isEmpty (set : SlotSet) : Bool := set.words.isEmpty

/-- The number of bits that are set in a word. -/
def bitCount (word : BitVec 64) : Nat := (List.range wordBits).countP word.getLsbD

def size (set : SlotSet) : Nat := total (set.words.map bitCount)

/-- Whether all indices below `count` are members.  Behind the stored words there are none. -/
def covers (set : SlotSet) (count : Nat) : Bool :=
  decide (count ≤ set.words.length * wordBits) && (List.range count).all set.contains

/-- The members of the words from word number `position` on. -/
def membersFrom (position : Nat) : List (BitVec 64) → List Nat
  | [] => []
  | word :: rest =>
    (((List.range wordBits).filter word.getLsbD).map (position * wordBits + ·)) ++
      membersFrom (position + 1) rest

/-- The members in ascending order. -/
def toList (set : SlotSet) : List Nat := membersFrom 0 set.words

theorem wordAt_padded (count : Nat) (words : List (BitVec 64)) (position : Nat) :
    wordAt (padded count words) position = wordAt words position := by
  unfold wordAt padded
  rw [List.getElem?_append]
  split
  · rfl
  · rename_i hpast
    rw [List.getElem?_eq_none (Nat.le_of_not_lt hpast), List.getElem?_replicate]
    split <;> rfl

theorem wordAt_modify (change : BitVec 64 → BitVec 64) {words : List (BitVec 64)}
    {position : Nat} (h : position < words.length) (other : Nat) :
    wordAt (words.modify position change) other =
      if position = other then change (wordAt words other) else wordAt words other := by
  unfold wordAt
  rw [List.getElem?_modify]
  by_cases heq : position = other
  · subst heq
    simp [h]
  · simp [heq]

theorem wordAt_trimmed (words : List (BitVec 64)) (position : Nat) :
    wordAt (trimmed words) position = wordAt words position := by
  induction words generalizing position with
  | nil => rfl
  | cons word rest ih =>
    cases hrest : trimmed rest with
    | nil =>
      have habsent : ∀ position, wordAt rest position = 0 := by
        intro position
        rw [← ih position, hrest]
        rfl
      by_cases hword : word = 0
      · cases position with
        | zero => simp [trimmed, hrest, hword, wordAt]
        | succ position => simpa [trimmed, hrest, hword, wordAt] using (habsent position).symm
      · have hkept : trimmed (word :: rest) = [word] := by
          rw [trimmed, hrest]
          exact if_neg hword
        rw [hkept]
        cases position with
        | zero => rfl
        | succ position => exact (habsent position).symm
    | cons kept others =>
      cases position with
      | zero => simp [trimmed, hrest, wordAt]
      | succ position =>
        have := ih position
        rw [hrest] at this
        simpa [trimmed, hrest, wordAt] using this

theorem getLsbD_bit (index position : Nat) :
    (bit index).getLsbD position = decide (index % wordBits = position) := by
  have hbit : index % wordBits < 64 := Nat.mod_lt _ (by decide)
  simp [bit, BitVec.getLsbD_twoPow, hbit]

theorem eq_of_place_eq {index other : Nat} (hword : index / wordBits = other / wordBits)
    (hbit : index % wordBits = other % wordBits) : index = other := by
  rw [← Nat.div_add_mod index wordBits, ← Nat.div_add_mod other wordBits, hword, hbit]

@[simp] theorem contains_empty (index : Nat) : (∅ : SlotSet).contains index = false := by
  change (wordAt [] (index / wordBits)).getLsbD (index % wordBits) = false
  simp [wordAt]

/-- Inserting an index adds it and no other. -/
theorem contains_insert (set : SlotSet) (index other : Nat) :
    (set.insert index).contains other = (decide (index = other) || set.contains other) := by
  have hlength : index / wordBits < (padded (index / wordBits + 1) set.words).length := by
    simp only [padded, List.length_append, List.length_replicate]
    omega
  have hother : other % wordBits < wordBits := Nat.mod_lt _ (by decide)
  unfold contains insert
  rw [wordAt_modify _ hlength, wordAt_padded]
  by_cases hword : index / wordBits = other / wordBits
  · rw [if_pos hword, BitVec.getLsbD_or, getLsbD_bit, Bool.or_comm]
    by_cases heq : index = other
    · simp [heq]
    · have hbit : index % wordBits ≠ other % wordBits := fun hbit =>
        heq (eq_of_place_eq hword hbit)
      simp [heq, hbit]
  · have heq : index ≠ other := by
      rintro rfl
      exact hword rfl
    rw [if_neg hword]
    simp [heq]

/-- Erasing an index takes it out and no other. -/
theorem contains_erase (set : SlotSet) (index other : Nat) :
    (set.erase index).contains other = (decide (index ≠ other) && set.contains other) := by
  have hother : other % wordBits < wordBits := Nat.mod_lt _ (by decide)
  unfold contains erase
  rw [wordAt_trimmed]
  by_cases hlength : index / wordBits < set.words.length
  · rw [wordAt_modify _ hlength]
    by_cases hword : index / wordBits = other / wordBits
    · have hwidth : other % wordBits < 64 := hother
      rw [if_pos hword, BitVec.getLsbD_and, BitVec.getLsbD_not, getLsbD_bit,
        Bool.and_comm]
      by_cases heq : index = other
      · simp [heq]
      · have hbit : index % wordBits ≠ other % wordBits := fun hbit =>
          heq (eq_of_place_eq hword hbit)
        simp [heq, hbit, hwidth]
    · have heq : index ≠ other := by
        rintro rfl
        exact hword rfl
      rw [if_neg hword]
      simp [heq]
  · rw [List.modify_eq_self (Nat.le_of_not_lt hlength)]
    by_cases heq : index = other
    · subst heq
      simp [wordAt, List.getElem?_eq_none (Nat.le_of_not_lt hlength)]
    · simp [heq]

theorem contains_ofList (indices : List Nat) (index : Nat) :
    (ofList indices).contains index = decide (index ∈ indices) := by
  suffices h : ∀ set : SlotSet, (indices.foldl insert set).contains index =
      (decide (index ∈ indices) || set.contains index) by
    simpa [ofList] using h ∅
  induction indices with
  | nil => simp
  | cons first rest ih =>
    intro set
    rw [List.foldl_cons, ih, contains_insert]
    by_cases hfirst : first = index
    · simp [hfirst]
    · have hindex : index ≠ first := fun h => hfirst h.symm
      simp [hfirst, hindex]

theorem getLsbD_lowestBits {count position : Nat} (h : position < wordBits) :
    (lowestBits count).getLsbD position = decide (position < count) := by
  unfold wordBits at h
  rw [lowestBits, BitVec.getLsbD_ushiftRight, BitVec.getLsbD_allOnes, decide_eq_decide]
  unfold wordBits
  omega

@[simp] theorem contains_full (count index : Nat) :
    (full count).contains index = decide (index < count) := by
  have hbit : index % wordBits < wordBits := Nat.mod_lt _ (by decide)
  have hindex := Nat.div_add_mod index wordBits
  have hcount := Nat.div_add_mod count wordBits
  have hpast : count % wordBits < wordBits := Nat.mod_lt _ (by decide)
  unfold contains full wordAt
  rw [List.getElem?_append, List.length_replicate]
  unfold wordBits at *
  split
  · rename_i hword
    have hmember : index < count := by omega
    rw [List.getElem?_replicate, if_pos hword, Option.getD_some, BitVec.getLsbD_allOnes,
      decide_eq_decide]
    exact iff_of_true hbit hmember
  · rename_i hword
    by_cases hwhole : count % 64 = 0
    · have habsent : ¬ index < count := by omega
      simp [hwhole, habsent]
    · rw [if_neg hwhole, List.getElem?_singleton]
      split
      · rename_i hlast
        rw [Option.getD_some, getLsbD_lowestBits hbit, decide_eq_decide]
        omega
      · rename_i hlast
        have habsent : ¬ index < count := by omega
        simp [habsent]

theorem contains_eq_false_of_le {set : SlotSet} {index : Nat}
    (h : set.words.length * wordBits ≤ index) : set.contains index = false := by
  have hword : set.words.length ≤ index / wordBits :=
    (Nat.le_div_iff_mul_le (by decide)).2 h
  simp [contains, wordAt, List.getElem?_eq_none hword]

/-- A set covers `count` indices exactly if each of them is a member. -/
theorem covers_iff (set : SlotSet) (count : Nat) :
    set.covers count = true ↔ ∀ index, index < count → set.contains index = true := by
  simp only [covers, Bool.and_eq_true, decide_eq_true_eq, List.all_eq_true, List.mem_range]
  refine ⟨And.right, fun h => ⟨Nat.le_of_not_lt fun hpast => ?_, h⟩⟩
  have hmember := h _ hpast
  rw [contains_eq_false_of_le (Nat.le_refl _)] at hmember
  exact Bool.false_ne_true hmember

end SlotSet

end Unconference
