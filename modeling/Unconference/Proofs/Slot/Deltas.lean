import Unconference.Proofs.Slot.Objective

/-!
# What a change of a slot adds and costs

An assignment tells the score it adds and a removal the score it loses, summed up over the users who
change over.  The score itself is summed up over all discussions of the slot.  In a slot at rest,
where nobody would rather attend something else, the two agree: what a removal tells is what the
discussion would add to the others, the change leaves the slot at rest, and the scores before and
after are apart by what was told.
-/

namespace Unconference

namespace Slot

open Ledger

/-- A slot in order, in which nobody likes another discussion better than the one they attend. -/
structure AtRest (slot : Slot) (ledger : Ledger) : Prop extends WellFormed slot where
  content : ∀ user, ¬ slot.Aggrieved ledger user

variable {slot : Slot} {ledger : Ledger} {discussion : DiscussionId}

theorem AtRest.optimal (hrest : slot.AtRest ledger) : slot.Optimal ledger :=
  hrest.toWellFormed.optimal_of_not_aggrieved hrest.content

theorem WellFormed.atRest (hslot : slot.WellFormed) (hoptimal : slot.Optimal ledger) :
    slot.AtRest ledger :=
  { hslot with content := hoptimal.not_aggrieved }

/-! ## What leaving costs -/

theorem cost_departure
    (slot : Slot) (ledger : Ledger) (discussion : DiscussionId) (user : UserId) :
    (slot.departure ledger discussion user).cost =
      ledger.interest user discussion -
        most (ledger.interest user) (slot.discussions.filter (· ≠ discussion)) := by
  rw [← changingOver_none_points, ← favourite_eq]
  unfold departure
  cases favourite ledger user (slot.discussions.filter (· ≠ discussion)) <;> rfl

theorem loss_of_not_mem (ledger : Ledger) (hmem : discussion ∉ slot.discussions) :
    slot.loss ledger discussion = 0 := by
  unfold loss
  rw [if_neg (by rw [contains_iff]; exact hmem)]

theorem loss_of_mem (ledger : Ledger) (hmem : discussion ∈ slot.discussions) :
    slot.loss ledger discussion =
      total ((slot.attendees discussion).map fun user =>
        ledger.interest user discussion -
          most (ledger.interest user) (slot.discussions.filter (· ≠ discussion))) := by
  unfold loss departures
  rw [if_pos ((slot.contains_iff discussion).2 hmem), List.map_map]
  congr 1
  apply List.map_congr_left
  intro user _
  exact cost_departure slot ledger discussion user

/-- What removing a discussion loses is what was announced. -/
theorem remove_snd (slot : Slot) (ledger : Ledger) (discussion : DiscussionId) :
    (slot.remove ledger discussion).2 = slot.loss ledger discussion := by
  by_cases hmem : discussion ∈ slot.discussions
  · rw [remove_of_mem ledger hmem]
  · rw [remove_of_not_mem ledger hmem, loss_of_not_mem ledger hmem]

/-- Strangers to the ledger may attend as well, but they have no points to give. -/
theorem total_attendees
    (slot : Slot) (ledger : Ledger) (discussion : DiscussionId) {amount : UserId → Nat}
    (hstranger : ∀ user, user ∉ ledger.userIds → amount user = 0) :
    total ((slot.attendees discussion).map amount) =
      total (ledger.userIds.map fun user =>
        if slot.attending user = some discussion then amount user else 0) := by
  have hperm := slot.perm_known_attendees ledger discussion
  calc
    total ((slot.attendees discussion).map amount) =
        total ((slot.attendees discussion).map fun user =>
          if decide (user ∈ ledger.userIds) then amount user else 0) := by
      congr 1
      apply List.map_congr_left
      intro user _
      by_cases hknown : user ∈ ledger.userIds
      · simp [hknown]
      · simp [hknown, hstranger user hknown]
    _ = total (((slot.attendees discussion).filter (· ∈ ledger.userIds)).map amount) :=
      (total_map_filter _ _ _).symm
    _ = total ((ledger.userIds.filter fun user =>
          slot.attending user = some discussion).map amount) :=
      total_eq_of_perm (hperm.map amount)
    _ = _ := by
      rw [total_map_filter]
      simp only [decide_eq_true_eq]

/-- Without a discussion there is as much for whoever attends another one. -/
theorem AtRest.most_filter_of_ne
    (hrest : slot.AtRest ledger) {user : UserId}
    (hother : slot.attending user ≠ some discussion) :
    most (ledger.interest user) (slot.discussions.filter (· ≠ discussion)) =
      most (ledger.interest user) slot.discussions := by
  apply le_antisymm (most_mono (List.filter_subset_self _))
  rw [← hrest.optimal user, currentInterest_eq]
  cases hattending : slot.attending user with
  | none => exact Nat.zero_le _
  | some attended =>
      have hlisted := hrest.listed user attended hattending
      have hne : attended ≠ discussion := fun heq => hother (heq ▸ hattending)
      have hkept : attended ∈ slot.discussions.filter (· ≠ discussion) :=
        List.mem_filter.2 ⟨hlisted, by simpa using hne⟩
      change ledger.interest user attended ≤ _
      exact le_most hkept

/-- A sum over the attendees is one over all users of the ledger. -/
theorem loss_eq_total_userIds (ledger : Ledger) (hmem : discussion ∈ slot.discussions) :
    slot.loss ledger discussion =
      total (ledger.userIds.map fun user =>
        if slot.attending user = some discussion then
          ledger.interest user discussion -
            most (ledger.interest user) (slot.discussions.filter (· ≠ discussion))
        else 0) := by
  rw [loss_of_mem ledger hmem]
  apply total_attendees
  intro user hunknown
  have hnone : ¬ 0 < ledger.interest user discussion := mt mem_userIds_of_interest_pos hunknown
  omega

/-- Removing a discussion costs what it would add to the others. -/
theorem AtRest.loss_eq
    (hrest : slot.AtRest ledger) (hmem : discussion ∈ slot.discussions) :
    slot.loss ledger discussion =
      ledger.addedWorth (slot.remove ledger discussion).1.discussions discussion := by
  rw [loss_eq_total_userIds ledger hmem, addedWorth, discussions_remove]
  congr 1
  apply List.map_congr_left
  intro user _
  by_cases hattending : slot.attending user = some discussion
  · rw [if_pos hattending]
  · -- whoever attends another discussion likes it as much at least
    have hle : ledger.interest user discussion ≤ most (ledger.interest user) slot.discussions :=
      le_most hmem
    rw [if_neg hattending, hrest.most_filter_of_ne hattending, Nat.sub_eq_zero_of_le hle]

theorem AtRest.worth_remove
    (hrest : slot.AtRest ledger) (discussion : DiscussionId) :
    ledger.worth (slot.remove ledger discussion).1.discussions + slot.loss ledger discussion =
      ledger.worth slot.discussions := by
  by_cases hmem : discussion ∈ slot.discussions
  · rw [hrest.loss_eq hmem, ← worth_append_singleton, discussions_remove]
    apply le_antisymm
    · apply worth_mono
      intro other hother
      rcases List.mem_append.1 hother with hother | hother
      · exact (List.mem_filter.1 hother).1
      · exact List.mem_singleton.1 hother ▸ hmem
    · apply worth_mono
      intro other hother
      by_cases heq : other = discussion
      · simp [heq]
      · simp [heq, hother]
  · rw [remove_of_not_mem ledger hmem, loss_of_not_mem ledger hmem, Nat.add_zero]

/-! ## Slots stay at rest -/

theorem AtRest.assign
    (hrest : slot.AtRest ledger) (hledger : ledger.Coherent) (discussion : DiscussionId) :
    (slot.assign ledger discussion).1.AtRest ledger := by
  by_cases hmem : discussion ∈ slot.discussions
  · rw [assign_of_mem ledger hmem]
    exact hrest
  · refine (hrest.toWellFormed.assign hledger discussion).atRest ?_
    intro user
    have hcurrent := hrest.optimal user
    rw [currentInterest_eq, attending_assign hledger hmem, discussions_assign, if_neg hmem,
      most_append, most_cons, most_nil, Nat.max_zero, ← hcurrent]
    split
    · rename_i hswitches
      exact (max_eq_right hswitches.le).symm
    · rename_i hstays
      rw [← currentInterest_eq]
      exact (max_eq_left (not_lt.1 hstays)).symm

theorem AtRest.remove (hrest : slot.AtRest ledger) (discussion : DiscussionId) :
    (slot.remove ledger discussion).1.AtRest ledger := by
  by_cases hmem : discussion ∈ slot.discussions
  · refine (hrest.toWellFormed.remove ledger discussion).atRest ?_
    intro user
    rw [currentInterest_eq, attending_remove slot ledger hmem, discussions_remove]
    split
    · exact points_favourite ledger user _
    · rename_i hother
      rw [hrest.most_filter_of_ne hother, ← hrest.optimal user, currentInterest_eq]
  · rw [remove_of_not_mem ledger hmem]
    exact hrest

theorem AtRest.score
    (hrest : slot.AtRest ledger) (hledger : ledger.Coherent) (validation : Validation) :
    slot.score ledger validation = .ok (slot, slot.totalScore ledger) :=
  score_of_not_aggrieved hledger hrest.content validation

theorem AtRest.score_eq_worth (hrest : slot.AtRest ledger) (hledger : ledger.Coherent) :
    (slot.totalScore ledger).score = ledger.worth slot.discussions :=
  hrest.toWellFormed.score_totalScore_eq hledger hrest.optimal

theorem AtRest.score_assign
    (hrest : slot.AtRest ledger) (hledger : ledger.Coherent) (discussion : DiscussionId) :
    ((slot.assign ledger discussion).1.totalScore ledger).score =
      (slot.totalScore ledger).score + slot.gain ledger discussion := by
  rw [(hrest.assign hledger discussion).score_eq_worth hledger, hrest.score_eq_worth hledger,
    hrest.optimal.worth_assign hledger discussion]

theorem AtRest.score_remove
    (hrest : slot.AtRest ledger) (hledger : ledger.Coherent) (discussion : DiscussionId) :
    ((slot.remove ledger discussion).1.totalScore ledger).score + slot.loss ledger discussion =
      (slot.totalScore ledger).score := by
  rw [(hrest.remove discussion).score_eq_worth hledger, hrest.score_eq_worth hledger,
    hrest.worth_remove discussion]

/-! ## Who moves -/

theorem attending_assign_of_ne
    (hledger : ledger.Coherent) {user : UserId}
    (hmoved : (slot.assign ledger discussion).1.attending user ≠ slot.attending user) :
    (slot.assign ledger discussion).1.attending user = some discussion ∧
      slot.currentInterest ledger user < ledger.interest user discussion := by
  by_cases hmem : discussion ∈ slot.discussions
  · rw [assign_of_mem ledger hmem] at hmoved
    exact absurd rfl hmoved
  · rw [attending_assign hledger hmem] at hmoved ⊢
    by_cases hswitches :
        slot.currentInterest ledger user < ledger.interest user discussion
    · exact ⟨if_pos hswitches, hswitches⟩
    · rw [if_neg hswitches] at hmoved
      exact absurd rfl hmoved

theorem attending_of_remove_ne
    {user : UserId}
    (hmoved : (slot.remove ledger discussion).1.attending user ≠ slot.attending user) :
    slot.attending user = some discussion := by
  by_cases hmem : discussion ∈ slot.discussions
  · rw [attending_remove slot ledger hmem] at hmoved
    by_contra hother
    rw [if_neg hother] at hmoved
    exact hmoved rfl
  · rw [remove_of_not_mem ledger hmem] at hmoved
    exact absurd rfl hmoved

theorem WellFormed.attending_remove_ne
    (hslot : slot.WellFormed) (ledger : Ledger) (discussion : DiscussionId) (user : UserId) :
    (slot.remove ledger discussion).1.attending user ≠ some discussion := by
  intro hattending
  have hlisted := (hslot.remove ledger discussion).listed user discussion hattending
  exact (mem_discussions_remove_iff.1 hlisted).2 rfl

/-- Nobody goes to something they like better than what they leave, so the cost of each departure is
the exact difference. -/
theorem AtRest.cost_add_replacement
    (hrest : slot.AtRest ledger) {departure : Departure}
    (hdeparture : departure ∈ slot.departures ledger discussion) :
    departure.cost + (departure.replacement.map (ledger.interest departure.user)).getD 0 =
      ledger.interest departure.user discussion := by
  obtain ⟨user, hattendee, rfl⟩ := List.mem_map.1 hdeparture
  have hattending := (mem_attendees_iff slot discussion user).1 hattendee
  have hcurrent := hrest.optimal user
  rw [currentInterest_eq, hattending, Option.map_some, Option.getD_some] at hcurrent
  have hle : most (ledger.interest user) (slot.discussions.filter (· ≠ discussion)) ≤
      most (ledger.interest user) slot.discussions := most_mono (List.filter_subset_self _)
  have hpoints := points_favourite ledger user (slot.discussions.filter (· ≠ discussion))
  rw [cost_departure]
  change _ + (((favourite ledger user (slot.discussions.filter (· ≠ discussion))).map
    (·.1)).map (ledger.interest user)).getD 0 = ledger.interest user discussion
  rw [hpoints]
  omega

/-- In a slot at rest an assignment adds to the score, and a removal takes from it, exactly what was
announced; the slot stays at rest, and nobody moves but those who change over to the discussion or
attended it. -/
theorem deltas_account_for_the_score
    {slot : Slot} {ledger : Ledger} (hledger : ledger.Reachable) (hrest : slot.AtRest ledger)
    (discussion : DiscussionId) :
    -- putting the discussion into the slot, whether it is there already or not
    ((slot.assign ledger discussion).2 = slot.gain ledger discussion ∧
      (slot.assign ledger discussion).1.AtRest ledger ∧
      (∀ validation, ∃ before after,
        slot.score ledger validation = .ok (slot, before) ∧
        (slot.assign ledger discussion).1.score ledger validation =
          .ok ((slot.assign ledger discussion).1, after) ∧
        after.score = before.score + (slot.assign ledger discussion).2) ∧
      ∀ user, (slot.assign ledger discussion).1.attending user ≠ slot.attending user →
        (slot.assign ledger discussion).1.attending user = some discussion ∧
          slot.currentInterest ledger user < ledger.interest user discussion) ∧
    -- taking it out, whether it is there or not
    ((slot.remove ledger discussion).2 = slot.loss ledger discussion ∧
      (slot.remove ledger discussion).1.AtRest ledger ∧
      (∀ user, (slot.remove ledger discussion).1.attending user ≠ some discussion) ∧
      (∀ validation, ∃ before after,
        slot.score ledger validation = .ok (slot, before) ∧
        (slot.remove ledger discussion).1.score ledger validation =
          .ok ((slot.remove ledger discussion).1, after) ∧
        after.score + (slot.remove ledger discussion).2 = before.score) ∧
      (∀ departure ∈ slot.departures ledger discussion,
        departure.cost + (departure.replacement.map (ledger.interest departure.user)).getD 0 =
          ledger.interest departure.user discussion) ∧
      ∀ user, (slot.remove ledger discussion).1.attending user ≠ slot.attending user →
        slot.attending user = some discussion) := by
  have hcoherent := hledger.coherent
  have hassigned := hrest.assign hcoherent discussion
  have hremoved := hrest.remove discussion
  refine ⟨⟨assign_snd slot ledger discussion, hassigned, fun validation => ?_,
    fun _ => attending_assign_of_ne hcoherent⟩,
    ⟨remove_snd slot ledger discussion, hremoved,
      hrest.toWellFormed.attending_remove_ne ledger discussion, fun validation => ?_,
      fun _ => hrest.cost_add_replacement, fun _ => attending_of_remove_ne⟩⟩
  · refine ⟨_, _, hrest.score hcoherent validation, hassigned.score hcoherent validation, ?_⟩
    rw [assign_snd, hrest.score_assign hcoherent]
  · refine ⟨_, _, hrest.score hcoherent validation, hremoved.score hcoherent validation, ?_⟩
    rw [remove_snd, hrest.score_remove hcoherent]

/-- One user and three discussions, with the points the user gives to each. -/
def threeTalks (first second third : Int) : Ledger :=
  ((twoTalks first second).addDiscussion ⟨0⟩ "elevators" true 1).2.setInterest ⟨0⟩ ⟨2⟩ third |>.2

theorem threeTalks_reachable (first second third : Int) :
    (threeTalks first second third).Reachable :=
  .setInterest _ _ _ (.addDiscussion _ _ _ _ (twoTalks_reachable first second))

/-- A slot that was filled when the second of two talks was liked better. -/
def tiedSlot : Slot :=
  (((∅ : Slot).assign (twoTalks 10 90) ⟨0⟩).1.assign (twoTalks 10 90) ⟨1⟩).1

theorem tiedSlot_atRest : tiedSlot.AtRest (threeTalks 50 50 80) where
  toWellFormed := (wellFormed_empty.assign (twoTalks_reachable 10 90).coherent _).assign
    (twoTalks_reachable 10 90).coherent _
  content := (grievance_eq_none_iff (threeTalks_reachable 50 50 80).coherent).1 (by rfl)

/-- By now both are liked equally, and refreshing would seat the user in the first of them. -/
theorem deltas_account_for_the_score_of_tiedSlot :
    (threeTalks 50 50 80).Reachable ∧ tiedSlot.AtRest (threeTalks 50 50 80) ∧
      tiedSlot.attending ⟨0⟩ = some ⟨1⟩ ∧
      (tiedSlot.refreshed (threeTalks 50 50 80)).attending ⟨0⟩ = some ⟨0⟩ ∧
      (tiedSlot.assign (threeTalks 50 50 80) ⟨2⟩).2 = 30 ∧
      (∃ before after,
        tiedSlot.score (threeTalks 50 50 80) .strict = .ok (tiedSlot, before) ∧
        (tiedSlot.assign (threeTalks 50 50 80) ⟨2⟩).1.score (threeTalks 50 50 80) .strict =
          .ok ((tiedSlot.assign (threeTalks 50 50 80) ⟨2⟩).1, after) ∧
        after.score = before.score + 30) ∧
      (tiedSlot.remove (threeTalks 50 50 80) ⟨1⟩).2 = 0 ∧
      (tiedSlot.remove (threeTalks 50 50 80) ⟨1⟩).1.attending ⟨0⟩ = some ⟨0⟩ ∧
      (tiedSlot.remove (threeTalks 50 50 80) ⟨1⟩).1.AtRest (threeTalks 50 50 80) := by
  have hreach := threeTalks_reachable 50 50 80
  obtain ⟨⟨_, _, hscore, _⟩, _⟩ := deltas_account_for_the_score hreach tiedSlot_atRest ⟨2⟩
  obtain ⟨_, ⟨_, hrest, _⟩⟩ := deltas_account_for_the_score hreach tiedSlot_atRest ⟨1⟩
  obtain ⟨before, after, hbefore, hafter, hadded⟩ := hscore .strict
  have hthirty : (tiedSlot.assign (threeTalks 50 50 80) ⟨2⟩).2 = 30 := by decide
  refine ⟨hreach, tiedSlot_atRest, by decide, by decide, hthirty,
    ⟨before, after, hbefore, hafter, ?_⟩, by decide, by decide, hrest⟩
  rw [hadded, hthirty]

end Slot

end Unconference
