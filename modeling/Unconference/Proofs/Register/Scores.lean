import Unconference.Proofs.Register.Basic
import Unconference.Proofs.Slot.Scoring
import Unconference.Schedule

/-!
# Scores in registers

Everything that adds up points, or takes points from points, is done here a second time, in the
same order and in registers.  What comes out is always the number that the exact computation gives,
written into a register, so it has a value exactly if that number fits.  This holds of any slot and
any ledger: a difference is taken only of points, and there are never more than 100 of them.
-/

namespace Unconference

namespace Ledger

theorem interest_le (ledger : Ledger) (user : UserId) (discussion : DiscussionId) :
    ledger.interest user discussion ≤ 100 := by
  unfold interest
  cases ledger.user? user with
  | none => simp
  | some record => exact Interest.le_max _

theorem points_le_of_mem_interested
    {ledger : Ledger} {discussion : DiscussionId} {wish : UserId × Nat}
    (hmem : wish ∈ ledger.interested discussion) : wish.2 ≤ 100 := by
  obtain ⟨interest, _, hpoints⟩ := (ledger.mem_interested_iff discussion wish.1 wish.2).1 hmem
  rw [← hpoints]
  exact interest.le_max

end Ledger

theorem lt_size_of_le_hundred {number : Nat} (hle : number ≤ 100) : number < UInt32.size :=
  Nat.lt_of_le_of_lt hle (by decide)

/-! ## The greatest score -/

namespace Discussion

def interestSumInRegister (discussion : Discussion) : Register :=
  .sum (discussion.interested.values.map fun interest => .ofNat interest.points)

def maxScoreInRegister (discussion : Discussion) : Register :=
  match discussion.rememberedMax with
  | some score => .ofNat score
  | none => discussion.interestSumInRegister

theorem maxScoreInRegister_eq (discussion : Discussion) :
    discussion.maxScoreInRegister = .ofNat discussion.maxScore := by
  unfold maxScoreInRegister maxScore
  cases discussion.rememberedMax with
  | some score => rfl
  | none =>
      have hsum := Register.sum_ofNat (discussion.interested.values.map Interest.points)
      rw [List.map_map] at hsum
      exact hsum

end Discussion

namespace Slot

variable (slot : Slot) (ledger : Ledger) (discussion : DiscussionId)

/-! ## Assigning -/

def switchersInRegisters : List (UserId × Register) :=
  (ledger.interested discussion).filterMap fun (user, points) =>
    let current := slot.currentInterest ledger user
    if current < points then some (user, .ofNat points - .ofNat current) else none

def gainInRegister : Register :=
  if slot.contains discussion then 0
  else .sum ((slot.switchersInRegisters ledger discussion).map (·.2))

def assignInRegister : Slot × Register :=
  if slot.contains discussion then (slot, 0)
  else
    let (seated, added) := (slot.switchersInRegisters ledger discussion).foldl
      (fun (slot, added) (user, gained) => (slot.seat user discussion, added + gained)) (slot, 0)
    ({ seated with discussions := seated.discussions ++ [discussion] }, added)

theorem switchersInRegisters_eq :
    slot.switchersInRegisters ledger discussion =
      (slot.switchers ledger discussion).map fun (user, gained) => (user, .ofNat gained) := by
  unfold switchersInRegisters switchers
  rw [List.map_filterMap]
  apply List.filterMap_congr
  rintro ⟨user, points⟩ hmem
  have hpoints := lt_size_of_le_hundred (Ledger.points_le_of_mem_interested hmem)
  by_cases hswitches : slot.currentInterest ledger user < points
  · simp [hswitches, Register.ofNat_sub hswitches.le hpoints]
  · simp [hswitches]

theorem gainInRegister_eq :
    slot.gainInRegister ledger discussion = .ofNat (slot.gain ledger discussion) := by
  unfold gainInRegister gain
  by_cases hcontains : slot.contains discussion = true
  · simp [hcontains]
  · have hsum := Register.sum_ofNat ((slot.switchers ledger discussion).map (·.2))
    rw [List.map_map] at hsum
    simpa [hcontains, switchersInRegisters_eq, Function.comp_def] using hsum

/-- A loop that changes the slot and adds up numbers in a register on the side. -/
theorem foldl_counting_ofNat {α : Type} (change : Slot → α → Slot) (amount : α → Nat)
    (elements : List α) (slot : Slot) (start : Nat) :
    elements.foldl
        (fun (state : Slot × Register) element =>
          (change state.1 element, state.2 + .ofNat (amount element)))
        (slot, .ofNat start) =
      (elements.foldl change slot, .ofNat (start + total (elements.map amount))) := by
  induction elements generalizing slot start with
  | nil => rfl
  | cons element rest ih => simp [ih, Register.ofNat_add, Nat.add_assoc]

theorem assignInRegister_eq :
    slot.assignInRegister ledger discussion =
      ((slot.assign ledger discussion).1, .ofNat (slot.assign ledger discussion).2) := by
  unfold assignInRegister assign
  by_cases hcontains : slot.contains discussion = true
  · simp [hcontains]
  · have hexact := foldl_counting (fun slot (switcher : UserId × Nat) =>
      slot.seat switcher.1 discussion) (·.2) (slot.switchers ledger discussion) slot 0
    have hregister := foldl_counting_ofNat (fun slot (switcher : UserId × Nat) =>
      slot.seat switcher.1 discussion) (·.2) (slot.switchers ledger discussion) slot 0
    rw [Register.ofNat_zero] at hregister
    simp only [hcontains, if_false, switchersInRegisters_eq, List.foldl_map, hexact, hregister,
      Bool.false_eq_true]

/-! ## Removing -/

/-- What it costs that `user` leaves `discussion`. -/
def costInRegister (user : UserId) : Register :=
  let best := favourite ledger user (slot.discussions.filter (· ≠ discussion))
  (Register.ofNat (ledger.interest user discussion)).saturatingSub
    (.ofNat (match best with | some (_, points) => points | none => 0))

def lossInRegister : Register :=
  if slot.contains discussion then
    .sum ((slot.attendees discussion).map (slot.costInRegister ledger discussion))
  else 0

def removeInRegister : Slot × Register :=
  if slot.contains discussion then
    let (left, lost) := (slot.attendees discussion).foldl
      (fun (left, lost) user =>
        (left.depart (slot.departure ledger discussion user),
          lost + slot.costInRegister ledger discussion user))
      (slot, 0)
    ({ left with discussions := left.discussions.filter (· ≠ discussion) }, lost)
  else (slot, 0)

theorem costInRegister_eq (user : UserId) :
    slot.costInRegister ledger discussion user =
      .ofNat (slot.departure ledger discussion user).cost := by
  have hbest : (match favourite ledger user (slot.discussions.filter (· ≠ discussion)) with
      | some (_, points) => points
      | none => 0) ≤ 100 := by
    have hmost : most (ledger.interest user)
        (slot.discussions.filter (· ≠ discussion)) ≤ 100 :=
      most_le_iff.2 fun other _ => ledger.interest_le user other
    rw [← changingOver_none_points, ← favourite_eq] at hmost
    cases hfound : favourite ledger user (slot.discussions.filter (· ≠ discussion)) with
    | none => simp
    | some found =>
        rw [hfound] at hmost
        exact hmost
  exact Register.saturatingSub_ofNat (lt_size_of_le_hundred (ledger.interest_le user discussion))
    (lt_size_of_le_hundred hbest)

theorem lossInRegister_eq :
    slot.lossInRegister ledger discussion = .ofNat (slot.loss ledger discussion) := by
  unfold lossInRegister loss departures
  by_cases hcontains : slot.contains discussion = true
  · have hcost : slot.costInRegister ledger discussion =
        Register.ofNat ∘ Departure.cost ∘ slot.departure ledger discussion :=
      funext (slot.costInRegister_eq ledger discussion)
    simp [hcontains, hcost, ← List.map_map, Register.sum_ofNat]
  · simp [hcontains]

theorem removeInRegister_eq :
    slot.removeInRegister ledger discussion =
      ((slot.remove ledger discussion).1, .ofNat (slot.remove ledger discussion).2) := by
  unfold removeInRegister remove departures
  by_cases hcontains : slot.contains discussion = true
  · have hexact := foldl_counting depart Departure.cost
      ((slot.attendees discussion).map (slot.departure ledger discussion)) slot 0
    have hregister := foldl_counting_ofNat depart Departure.cost
      ((slot.attendees discussion).map (slot.departure ledger discussion)) slot 0
    rw [Register.ofNat_zero, List.foldl_map] at hregister
    simp only [hcontains, if_true, costInRegister_eq, hexact, hregister]
  · simp [hcontains]

/-! ## Scoring -/

def discussionScoreInRegisters : ScoreRegisters :=
  (ledger.interested discussion).foldl
    (fun total (user, points) =>
      total + if slot.attending user = some discussion then ⟨.ofNat points, 0⟩
        else ⟨0, .ofNat points⟩)
    0

def totalScoreInRegisters : ScoreRegisters :=
  .sum (slot.discussions.map (slot.discussionScoreInRegisters ledger))

/-- The slot as validation leaves it, and what was added up for it. -/
def scoreInRegisters (validation : Validation) : Except Inconsistency Slot × ScoreRegisters :=
  match slot.validated ledger validation with
  | .ok after => (.ok after, after.totalScoreInRegisters ledger)
  | .error cause => (.error cause, 0)

theorem discussionScoreInRegisters_eq :
    slot.discussionScoreInRegisters ledger discussion =
      .ofScore (slot.discussionScore ledger discussion) := by
  have hpart (user : UserId) (points : Nat) :
      (if slot.attending user = some discussion then ⟨.ofNat points, 0⟩
        else ⟨0, .ofNat points⟩ : ScoreRegisters) =
        .ofScore (if slot.attending user = some discussion then ⟨points, 0⟩
          else ⟨0, points⟩) := by
    split <;> rfl
  unfold discussionScoreInRegisters discussionScore
  rw [← ScoreRegisters.ofScore_zero]
  generalize (0 : Score) = start
  induction ledger.interested discussion generalizing start with
  | nil => rfl
  | cons wish rest ih =>
      simp only [List.foldl_cons, hpart, ScoreRegisters.ofScore_add] at ih ⊢
      exact ih _

theorem totalScoreInRegisters_eq :
    slot.totalScoreInRegisters ledger = .ofScore (slot.totalScore ledger) := by
  have hscores : slot.discussionScoreInRegisters ledger =
      ScoreRegisters.ofScore ∘ slot.discussionScore ledger :=
    funext (slot.discussionScoreInRegisters_eq ledger)
  unfold totalScoreInRegisters totalScore
  rw [hscores, ← List.map_map, ScoreRegisters.sum_ofScore]

/-- What was added up is the score that is answered, and nothing where there is no answer. -/
theorem scoreInRegisters_spec (validation : Validation) :
    ∃ counted : Score,
      (slot.scoreInRegisters ledger validation).2 = .ofScore counted ∧
      ((slot.scoreInRegisters ledger validation).1.map fun after => (after, counted)) =
        slot.score ledger validation ∧
      counted.score + counted.missed ≤
        total (slot.discussions.map fun discussion =>
          total ((ledger.interested discussion).map (·.2))) := by
  unfold scoreInRegisters score
  cases hvalidated : slot.validated ledger validation with
  | error cause => exact ⟨0, rfl, rfl, Nat.zero_le _⟩
  | ok after =>
      refine ⟨after.totalScore ledger, after.totalScoreInRegisters_eq ledger, rfl, ?_⟩
      rw [score_add_missed_totalScore, discussions_of_validated_eq_ok hvalidated]

end Slot

/-! ## Scoring a schedule -/

namespace Schedule

/-- Scores slot after slot on top of `counted`.  What was added up by then is there also if
validation rejects a slot. -/
def scoreSlotsInRegisters (ledger : Ledger) (validation : Validation) :
    ScoreRegisters → List Slot → Except Inconsistency (List Slot) × ScoreRegisters
  | counted, [] => (.ok [], counted)
  | counted, slot :: rest =>
    match slot.scoreInRegisters ledger validation with
    | (.error cause, _) => (.error cause, counted)
    | (.ok after, score) =>
      let (others, counted) := scoreSlotsInRegisters ledger validation (counted + score) rest
      (others.map (after :: ·), counted)

def scoreInRegisters (schedule : Schedule) (ledger : Ledger) (validation : Validation) :
    Except Inconsistency Schedule × ScoreRegisters :=
  let (slots, counted) := scoreSlotsInRegisters ledger validation 0 schedule.slots
  (slots.map fun slots => { schedule with slots }, counted)

theorem scoreSlotsInRegisters_spec
    (ledger : Ledger) (validation : Validation) (slots : List Slot) (start : Score) :
    ∃ counted : Score,
      (scoreSlotsInRegisters ledger validation (.ofScore start) slots).2 =
        .ofScore (start + counted) ∧
      ((scoreSlotsInRegisters ledger validation (.ofScore start) slots).1.map
        fun after => (after, counted)) = scoreSlots ledger validation slots ∧
      counted.score + counted.missed ≤
        total ((slots.flatMap (·.discussions)).map fun discussion =>
          total ((ledger.interested discussion).map (·.2))) := by
  -- what was added up is handed on from slot to slot, so the sum may begin anywhere
  induction slots generalizing start with
  | nil =>
      exact ⟨0, by simp [scoreSlotsInRegisters, ScoreRegisters.ofScore], rfl, Nat.zero_le _⟩
  | cons slot rest ih =>
      obtain ⟨first, hfirst, hscore, hbound⟩ := slot.scoreInRegisters_spec ledger validation
      simp only [scoreSlotsInRegisters, scoreSlots, List.flatMap_cons, List.map_append,
        total_append, ← hscore]
      cases hanswer : slot.scoreInRegisters ledger validation with
      | mk answer registers =>
          rw [hanswer] at hfirst
          obtain rfl : registers = .ofScore first := hfirst
          cases answer with
          | error cause =>
              exact ⟨0, by simp [ScoreRegisters.ofScore], rfl, Nat.zero_le _⟩
          | ok after =>
              obtain ⟨others, hothers, hrest, hothersBound⟩ := ih (start + first)
              simp only [ScoreRegisters.ofScore_add]
              generalize scoreSlotsInRegisters ledger validation (.ofScore (start + first)) rest =
                registered at hothers hrest
              refine ⟨first + others, ?_, ?_, ?_⟩
              · rw [hothers]
                simp [ScoreRegisters.ofScore, Nat.add_assoc]
              · rw [← hrest]
                cases registered.1 <;> rfl
              · rw [Score.score_add, Score.missed_add]
                omega

theorem scoreInRegisters_spec
    (schedule : Schedule) (ledger : Ledger) (validation : Validation) :
    ∃ counted : Score,
      (schedule.scoreInRegisters ledger validation).2 = .ofScore counted ∧
      ((schedule.scoreInRegisters ledger validation).1.map fun after => (after, counted)) =
        schedule.score ledger validation ∧
      counted.score + counted.missed ≤
        total (schedule.listings.map fun discussion =>
          total ((ledger.interested discussion).map (·.2))) := by
  obtain ⟨counted, hcounted, hscore, hbound⟩ :=
    scoreSlotsInRegisters_spec ledger validation schedule.slots 0
  rw [ScoreRegisters.ofScore_zero] at hcounted hscore
  unfold scoreInRegisters Schedule.score
  cases hregistered : scoreSlotsInRegisters ledger validation 0 schedule.slots with
  | mk answer registers =>
      rw [hregistered] at hcounted hscore
      refine ⟨counted, ?_, ?_, hbound⟩
      · simpa [ScoreRegisters.ofScore] using hcounted
      · rw [← hscore]
        cases answer <;> rfl

end Schedule

end Unconference
