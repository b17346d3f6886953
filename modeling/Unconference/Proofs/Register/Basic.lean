import Unconference.Slot.Score

/-!
# Registers

A register holds a number of 32 bits.  A sum that needs more bits and a difference below zero
overflow, and what is worked out from an overflow has overflowed as well, so a result that has a
value comes from steps none of which overflowed.  Numbers may be written into registers before they
are added or after that: it makes no difference, since the parts of a sum that fits do fit.
-/

namespace Unconference

inductive Register where
  | word (bits : UInt32)
  | overflow
deriving DecidableEq

namespace Register

def ofNat (number : Nat) : Register :=
  if number < UInt32.size then .word (UInt32.ofNat number) else .overflow

def value? : Register → Option Nat
  | .word bits => some bits.toNat
  | .overflow => none

def add : Register → Register → Register
  | .word left, .word right =>
    if left.toNat + right.toNat < UInt32.size then .word (left + right) else .overflow
  | _, _ => .overflow

def sub : Register → Register → Register
  | .word left, .word right => if right ≤ left then .word (left - right) else .overflow
  | _, _ => .overflow

/-- The difference, or zero where it would be below zero. -/
def saturatingSub : Register → Register → Register
  | .word left, .word right => .word (if right ≤ left then left - right else 0)
  | _, _ => .overflow

instance : Add Register := ⟨add⟩

instance : Sub Register := ⟨sub⟩

instance : Zero Register := ⟨.word 0⟩

/-- Adds the registers up one by one, from the first on. -/
def sum (registers : List Register) : Register := registers.foldl (· + ·) 0

/-! ## Numbers in registers -/

theorem ofNat_of_lt {number : Nat} (hlt : number < UInt32.size) :
    ofNat number = .word (UInt32.ofNat number) := if_pos hlt

theorem ofNat_of_le {number : Nat} (hle : UInt32.size ≤ number) :
    ofNat number = .overflow := if_neg (by omega)

@[simp] theorem ofNat_zero : ofNat 0 = 0 := rfl

theorem value?_ofNat {number : Nat} (hlt : number < UInt32.size) :
    (ofNat number).value? = some number := by
  simp [ofNat_of_lt hlt, value?, UInt32.toNat_ofNat_of_lt' hlt]

theorem overflow_add (register : Register) : overflow + register = overflow := rfl

theorem add_overflow (register : Register) : register + overflow = overflow := by
  cases register <;> rfl

theorem word_add (left right : UInt32) :
    word left + word right =
      if left.toNat + right.toNat < UInt32.size then .word (left + right) else .overflow := rfl

theorem word_sub (left right : UInt32) :
    word left - word right = if right ≤ left then .word (left - right) else .overflow := rfl

theorem ofNat_add (left right : Nat) : ofNat left + ofNat right = ofNat (left + right) := by
  by_cases hleft : left < UInt32.size
  · by_cases hright : right < UInt32.size
    · rw [ofNat_of_lt hleft, ofNat_of_lt hright, word_add, UInt32.toNat_ofNat_of_lt' hleft,
        UInt32.toNat_ofNat_of_lt' hright, ← UInt32.ofNat_add, ofNat]
    · rw [ofNat_of_le (Nat.not_lt.1 hright), add_overflow, ofNat_of_le (by omega)]
  · rw [ofNat_of_le (Nat.not_lt.1 hleft), overflow_add, ofNat_of_le (by omega)]

theorem ofNat_le_ofNat_iff
    {left right : Nat} (hleft : left < UInt32.size) (hright : right < UInt32.size) :
    UInt32.ofNat right ≤ UInt32.ofNat left ↔ right ≤ left := by
  rw [UInt32.le_iff_toNat_le, UInt32.toNat_ofNat_of_lt' hleft, UInt32.toNat_ofNat_of_lt' hright]

theorem ofNat_sub {left right : Nat} (hle : right ≤ left) (hleft : left < UInt32.size) :
    ofNat left - ofNat right = ofNat (left - right) := by
  have hright : right < UInt32.size := by omega
  rw [ofNat_of_lt hleft, ofNat_of_lt hright, word_sub,
    if_pos ((ofNat_le_ofNat_iff hleft hright).2 hle), ← UInt32.ofNat_sub hle,
    ofNat_of_lt (by omega)]

theorem saturatingSub_ofNat
    {left right : Nat} (hleft : left < UInt32.size) (hright : right < UInt32.size) :
    (ofNat left).saturatingSub (ofNat right) = ofNat (left - right) := by
  rw [ofNat_of_lt hleft, ofNat_of_lt hright, saturatingSub, ofNat_of_lt (by omega)]
  simp only [ofNat_le_ofNat_iff hleft hright]
  by_cases hle : right ≤ left
  · rw [if_pos hle, UInt32.ofNat_sub hle]
  · rw [if_neg hle, Nat.sub_eq_zero_of_le (by omega)]
    rfl

theorem foldl_add_ofNat (numbers : List Nat) (start : Nat) :
    (numbers.map ofNat).foldl (· + ·) (ofNat start) = ofNat (start + total numbers) := by
  induction numbers generalizing start with
  | nil => simp
  | cons number rest ih => simp [ofNat_add, ih, Nat.add_assoc]

theorem sum_ofNat (numbers : List Nat) : sum (numbers.map ofNat) = ofNat (total numbers) := by
  simpa [sum] using foldl_add_ofNat numbers 0

end Register

/-! ## Scores in registers -/

/-- Achieved and missed interest, each in a register of its own. -/
structure ScoreRegisters where
  score : Register := 0
  missed : Register := 0
deriving DecidableEq

namespace ScoreRegisters

instance : Add ScoreRegisters := ⟨fun a b => ⟨a.score + b.score, a.missed + b.missed⟩⟩

instance : Zero ScoreRegisters := ⟨{}⟩

def sum (scores : List ScoreRegisters) : ScoreRegisters := scores.foldl (· + ·) 0

/-- The score, if neither part overflowed. -/
def value? (registers : ScoreRegisters) : Option Score :=
  match registers.score.value?, registers.missed.value? with
  | some score, some missed => some { score, missed }
  | _, _ => none

def ofScore (score : Score) : ScoreRegisters := ⟨.ofNat score.score, .ofNat score.missed⟩

theorem mk_add_mk (score missed otherScore otherMissed : Register) :
    (⟨score, missed⟩ + ⟨otherScore, otherMissed⟩ : ScoreRegisters) =
      ⟨score + otherScore, missed + otherMissed⟩ := rfl

@[simp] theorem ofScore_zero : ofScore 0 = 0 := rfl

theorem ofScore_add (left right : Score) :
    ofScore left + ofScore right = ofScore (left + right) := by
  simp [ofScore, mk_add_mk, Register.ofNat_add]

theorem foldl_add_ofScore (scores : List Score) (start : Score) :
    (scores.map ofScore).foldl (· + ·) (ofScore start) = ofScore (start + scores.sum) := by
  induction scores generalizing start with
  | nil => rfl
  | cons score rest ih =>
      rw [List.map_cons, List.foldl_cons, ofScore_add, ih, List.sum_cons]
      simp [ofScore, Nat.add_assoc]

theorem sum_ofScore (scores : List Score) : sum (scores.map ofScore) = ofScore scores.sum := by
  have hsum := foldl_add_ofScore scores 0
  rw [ofScore_zero] at hsum
  exact hsum.trans (by simp [ofScore])

/-- Two numbers fit wherever their sum does. -/
theorem value?_ofScore {score : Score} (hlt : score.score + score.missed < UInt32.size) :
    (ofScore score).value? = some score := by
  have hscore : score.score < UInt32.size := by omega
  have hmissed : score.missed < UInt32.size := by omega
  simp [value?, ofScore, Register.value?_ofNat hscore, Register.value?_ofNat hmissed]

end ScoreRegisters

end Unconference
