import Unconference.Proofs.Slot.Fresh
import Unconference.Slot.Score

/-!
# Scoring whatever the attendance was

Attendance may be left over from another ledger when a slot is scored.  The correcting loop moves
one aggrieved user after the other to the first of the discussions they like best.  Such a move
settles the user and leaves all others as they are, so the users who are still waiting become fewer
with every move and the loop ends.  What is scored then, discussion by discussion, is the sum over
the users of the best that the slot has for each of them.
-/

namespace Unconference

theorem bind_eq_ok {ε α β : Type} {answer : Except ε α} {next : α → Except ε β} {last : β} :
    answer >>= next = .ok last ↔ ∃ found, answer = .ok found ∧ next found = .ok last := by
  cases answer <;> simp [bind, Except.bind]

namespace Slot

open Ledger

/-! ## The correcting loop -/

/-- The loop that settles grievances as long as there are any, with the number of its moves. -/
inductive Settling (ledger : Ledger) : Slot → Nat → Slot → Prop
  | done {slot : Slot} : slot.grievance ledger = none → Settling ledger slot 0 slot
  | move {slot final : Slot} {grievance : Grievance} {moves : Nat} :
      slot.grievance ledger = some grievance →
        Settling ledger (slot.seat grievance.user grievance.preferred) moves final →
          Settling ledger slot (moves + 1) final

/-- The walk that `preferred` makes begins with the discussion in hand. -/
theorem some_preferred_eq
    (slot : Slot) (ledger : Ledger) (user : UserId) (discussion : DiscussionId) (points : Nat) :
    some (slot.preferred ledger user discussion points) =
      (changingOver (ledger.interest user) (some (discussion, points)) slot.discussions).map
        (·.1) := by
  rw [← some_foldl_eq_changingOver]
  rfl

section

variable {ledger : Ledger} (hledger : ledger.Coherent) {slot : Slot}

include hledger

theorem grievanceIn_eq_none_iff (discussion : DiscussionId) :
    slot.grievanceIn ledger discussion = none ↔
      ∀ user, ledger.interest user discussion ≤ slot.currentInterest ledger user := by
  unfold grievanceIn
  rw [List.findSome?_eq_none_iff]
  constructor
  · intro hnone user
    by_contra hlt
    rw [not_le] at hlt
    have hentry := (hledger.mem_interested discussion user _).2 ⟨Nat.zero_lt_of_lt hlt, rfl⟩
    simpa [hlt] using hnone _ hentry
  · rintro hall ⟨user, points⟩ hentry
    obtain ⟨_, rfl⟩ := (hledger.mem_interested discussion user points).1 hentry
    simpa using hall user

theorem grievance_eq_none_iff :
    slot.grievance ledger = none ↔ ∀ user, ¬ slot.Aggrieved ledger user := by
  unfold grievance Aggrieved
  rw [List.findSome?_eq_none_iff]
  constructor
  · rintro hnone user ⟨discussion, hmem, hlt⟩
    have hle := (grievanceIn_eq_none_iff hledger discussion).1 (hnone discussion hmem) user
    omega
  · intro hall discussion hmem
    rw [grievanceIn_eq_none_iff hledger]
    intro user
    by_contra hlt
    exact hall user ⟨discussion, hmem, not_le.1 hlt⟩

/-- The first grievance is about a user who is in fact aggrieved, and names the first of the
discussions that this user likes best. -/
theorem grievance_spec {grievance : Grievance}
    (hgrievance : slot.grievance ledger = some grievance) :
    slot.Aggrieved ledger grievance.user ∧
      FirstBest (ledger.interest grievance.user) slot.discussions grievance.preferred := by
  unfold Slot.grievance at hgrievance
  obtain ⟨before, discussion, after, hsplit, hfound, hbefore⟩ :=
    List.findSome?_eq_some_iff.1 hgrievance
  unfold grievanceIn at hfound
  obtain ⟨_, ⟨user, points⟩, _, hentries, hentry, _⟩ := List.findSome?_eq_some_iff.1 hfound
  have hwish : (user, points) ∈ ledger.interested discussion := by
    rw [hentries]
    simp
  obtain ⟨hpos, rfl⟩ := (hledger.mem_interested discussion user points).1 hwish
  simp only [Option.ite_none_right_eq_some, Option.some.injEq] at hentry
  obtain ⟨hlt, rfl⟩ := hentry
  have hmem : discussion ∈ slot.discussions := by
    rw [hsplit]
    simp
  refine ⟨⟨discussion, hmem, hlt⟩, ?_⟩
  dsimp only
  have hpreferred :=
    some_preferred_eq slot ledger user discussion (ledger.interest user discussion)
  rcases changingOver_spec (ledger.interest user)
      (some (discussion, ledger.interest user discussion)) slot.discussions with
    ⟨hkept, hmost⟩ | ⟨other, hfound, _, hfirst⟩
  · -- nothing is liked better; whatever comes before would have been the first grievance
    rw [hkept] at hpreferred
    rw [Option.some.inj hpreferred]
    refine ⟨hpos, before, after, hsplit, ?_, ?_⟩
    · intro other hother
      have hle := (grievanceIn_eq_none_iff hledger other).1 (hbefore other hother) user
      change ledger.interest user other < ledger.interest user discussion
      omega
    · intro other hother
      refine (le_most ?_).trans hmost
      rw [hsplit]
      simp [hother]
  · rw [hfound] at hpreferred
    rw [Option.some.inj hpreferred]
    exact hfirst

omit hledger in
theorem mem_userIds_of_aggrieved {user : UserId} (haggrieved : slot.Aggrieved ledger user) :
    user ∈ ledger.userIds := by
  obtain ⟨discussion, _, hlt⟩ := haggrieved
  exact mem_userIds_of_interest_pos (Nat.zero_lt_of_lt hlt)

/-- Settling a grievance leaves only other users to wait. -/
theorem aggrieved_of_aggrieved_seat {grievance : Grievance}
    (hgrievance : slot.grievance ledger = some grievance) {user : UserId}
    (haggrieved :
      (slot.seat grievance.user grievance.preferred).Aggrieved ledger user) :
    user ≠ grievance.user ∧ slot.Aggrieved ledger user := by
  obtain ⟨_, hfirst⟩ := grievance_spec hledger hgrievance
  have hattending := attending_seat slot grievance.user user grievance.preferred
  have hkept : (slot.seat grievance.user grievance.preferred).discussions =
      slot.discussions := rfl
  by_cases huser : grievance.user = user
  · subst user
    rw [if_pos rfl] at hattending
    rw [aggrieved_iff, currentInterest_eq, hattending, hkept] at haggrieved
    simp [hfirst.points_eq_most] at haggrieved
  · rw [if_neg huser] at hattending
    refine ⟨fun h => huser h.symm, ?_⟩
    rw [aggrieved_iff] at haggrieved ⊢
    rw [currentInterest_congr ledger hattending, hkept] at haggrieved
    exact haggrieved

/-- The moves allowed suffice as long as there are as many of them as users who wait. -/
theorem settling_settledWithin {moves : Nat} {waiting : List UserId}
    (hlength : waiting.length ≤ moves)
    (hwaiting : ∀ user, slot.Aggrieved ledger user → user ∈ waiting) :
    ∃ made ≤ moves, Settling ledger slot made (settledWithin ledger moves slot) := by
  induction moves generalizing slot waiting with
  | zero =>
      have hempty : waiting = [] := List.length_eq_zero_iff.1 (Nat.le_zero.1 hlength)
      have hnone : slot.grievance ledger = none := by
        rw [grievance_eq_none_iff hledger]
        intro user haggrieved
        have hmem := hwaiting user haggrieved
        rw [hempty] at hmem
        simp at hmem
      exact ⟨0, le_rfl, .done hnone⟩
  | succ moves ih =>
      cases hgrievance : slot.grievance ledger with
      | none =>
          refine ⟨0, Nat.zero_le _, ?_⟩
          simp only [settledWithin, hgrievance]
          exact .done hgrievance
      | some grievance =>
          obtain ⟨haggrieved, _⟩ := grievance_spec hledger hgrievance
          have hmem := hwaiting grievance.user haggrieved
          have hshorter : (waiting.erase grievance.user).length ≤ moves := by
            rw [List.length_erase_of_mem hmem]
            omega
          have hstillWaiting : ∀ user,
              (slot.seat grievance.user grievance.preferred).Aggrieved ledger user →
                user ∈ waiting.erase grievance.user := by
            intro user hstill
            obtain ⟨hne, hbefore⟩ := aggrieved_of_aggrieved_seat hledger hgrievance hstill
            exact (List.mem_erase_of_ne hne).2 (hwaiting user hbefore)
          obtain ⟨made, hmade, hsettling⟩ := ih hshorter hstillWaiting
          refine ⟨made + 1, Nat.succ_le_succ hmade, ?_⟩
          simp only [settledWithin, hgrievance]
          exact .move hgrievance hsettling

theorem settling_settled (slot : Slot) :
    ∃ moves ≤ ledger.users.length, Settling ledger slot moves (slot.settled ledger) := by
  have hlength : ledger.userIds.length = ledger.users.length := by simp [userIds]
  exact settling_settledWithin hledger hlength.le fun _ => mem_userIds_of_aggrieved

theorem Settling.attending {final : Slot} {moves : Nat}
    (hsettling : Settling ledger slot moves final) (user : UserId) :
    final.attending user =
      if slot.currentInterest ledger user < most (ledger.interest user) slot.discussions
      then (favourite ledger user slot.discussions).map (·.1)
      else slot.attending user := by
  induction hsettling with
  | @done slot hnone =>
      have hcontent := (grievance_eq_none_iff hledger).1 hnone user
      rw [aggrieved_iff] at hcontent
      rw [if_neg hcontent]
  | @move slot final grievance moves hgrievance _ ih =>
      obtain ⟨haggrieved, hfirst⟩ := grievance_spec hledger hgrievance
      have hattending := attending_seat slot grievance.user user grievance.preferred
      have hkept : (slot.seat grievance.user grievance.preferred).discussions =
          slot.discussions := rfl
      rw [ih, hkept]
      by_cases huser : grievance.user = user
      · subst user
        rw [if_pos rfl] at hattending
        rw [aggrieved_iff] at haggrieved
        have hfavourite := changingOver_none_eq_some_iff.2 ⟨hfirst, rfl⟩
        rw [if_pos haggrieved, currentInterest_eq, hattending, favourite_eq, hfavourite]
        simp
      · rw [if_neg huser] at hattending
        rw [currentInterest_congr ledger hattending, hattending]

omit hledger in
theorem Settling.discussions {final : Slot} {moves : Nat}
    (hsettling : Settling ledger slot moves final) : final.discussions = slot.discussions := by
  induction hsettling with
  | done _ => rfl
  | move _ _ ih => exact ih

theorem attending_settled (slot : Slot) (user : UserId) :
    (slot.settled ledger).attending user =
      if slot.currentInterest ledger user < most (ledger.interest user) slot.discussions
      then (favourite ledger user slot.discussions).map (·.1)
      else slot.attending user := by
  obtain ⟨_, _, hsettling⟩ := settling_settled hledger slot
  exact hsettling.attending hledger user

theorem discussions_settled (slot : Slot) :
    (slot.settled ledger).discussions = slot.discussions := by
  obtain ⟨_, _, hsettling⟩ := settling_settled hledger slot
  exact hsettling.discussions

theorem attending_settled_of_aggrieved {user : UserId}
    (haggrieved : slot.Aggrieved ledger user) :
    ∃ discussion,
      (slot.settled ledger).attending user = some discussion ∧
        FirstBest (ledger.interest user) slot.discussions discussion := by
  rw [aggrieved_iff] at haggrieved
  rw [attending_settled hledger, if_pos haggrieved, favourite_eq]
  rcases changingOver_none_spec (ledger.interest user) slot.discussions with
    ⟨_, hmost⟩ | ⟨discussion, hsome, hfirst⟩
  · omega
  · exact ⟨discussion, by rw [hsome]; rfl, hfirst⟩

theorem attending_settled_of_not_aggrieved {user : UserId}
    (hcontent : ¬ slot.Aggrieved ledger user) :
    (slot.settled ledger).attending user = slot.attending user := by
  rw [aggrieved_iff] at hcontent
  rw [attending_settled hledger, if_neg hcontent]

theorem not_aggrieved_settled (slot : Slot) (user : UserId) :
    ¬ (slot.settled ledger).Aggrieved ledger user := by
  rw [aggrieved_iff, discussions_settled hledger, currentInterest_eq]
  by_cases haggrieved : slot.Aggrieved ledger user
  · obtain ⟨discussion, hattending, hfirst⟩ := attending_settled_of_aggrieved hledger haggrieved
    rw [hattending]
    simp [hfirst.points_eq_most]
  · rw [attending_settled_of_not_aggrieved hledger haggrieved, ← currentInterest_eq,
      ← aggrieved_iff]
    exact haggrieved

theorem WellFormed.settled (hslot : slot.WellFormed) : (slot.settled ledger).WellFormed := by
  constructor
  · rw [discussions_settled hledger]
    exact hslot.nodup
  · intro user discussion hattending
    rw [discussions_settled hledger]
    by_cases haggrieved : slot.Aggrieved ledger user
    · obtain ⟨found, hfound, hfirst⟩ := attending_settled_of_aggrieved hledger haggrieved
      rw [hfound] at hattending
      exact Option.some.inj hattending ▸ hfirst.mem
    · rw [attending_settled_of_not_aggrieved hledger haggrieved] at hattending
      exact hslot.listed user discussion hattending

theorem settled_eq_self_iff :
    slot.settled ledger = slot ↔ ∀ user, ¬ slot.Aggrieved ledger user := by
  constructor
  · intro hsame
    rw [← hsame]
    exact not_aggrieved_settled hledger slot
  · intro hcontent
    refine ext_attending (discussions_settled hledger slot) fun user => ?_
    exact attending_settled_of_not_aggrieved hledger (hcontent user)

end

/-! ## What scoring answers -/

theorem discussions_settledWithin (ledger : Ledger) (moves : Nat) (slot : Slot) :
    (settledWithin ledger moves slot).discussions = slot.discussions := by
  induction moves generalizing slot with
  | zero => rfl
  | succ moves ih =>
      unfold settledWithin
      split
      · rfl
      · exact ih _

/-- Whatever the ledger is like, validation does not touch the list of discussions. -/
theorem discussions_of_validated_eq_ok
    {slot after : Slot} {ledger : Ledger} {validation : Validation}
    (hvalidated : slot.validated ledger validation = .ok after) :
    after.discussions = slot.discussions := by
  cases validation with
  | production =>
      obtain rfl := Except.ok.inj hvalidated
      exact discussions_settledWithin ledger _ slot
  | strict =>
      cases hgrievance : slot.grievance ledger with
      | none =>
          simp only [validated, hgrievance] at hvalidated
          obtain rfl := Except.ok.inj hvalidated
          rfl
      | some grievance =>
          simp only [validated, hgrievance] at hvalidated
          cases hvalidated

theorem score_eq_ok_iff
    {slot after : Slot} {ledger : Ledger} {validation : Validation} {score : Score} :
    slot.score ledger validation = .ok (after, score) ↔
      slot.validated ledger validation = .ok after ∧ after.totalScore ledger = score := by
  unfold Slot.score
  rw [bind_eq_ok]
  constructor
  · rintro ⟨validated, hvalidated, hanswer⟩
    obtain ⟨rfl, rfl⟩ := Prod.mk.inj (Except.ok.inj hanswer)
    exact ⟨hvalidated, rfl⟩
  · rintro ⟨hvalidated, rfl⟩
    exact ⟨after, hvalidated, rfl⟩

theorem score_production (slot : Slot) (ledger : Ledger) :
    slot.score ledger .production =
      .ok (slot.settled ledger, (slot.settled ledger).totalScore ledger) := rfl

theorem score_strict_of_grievance_none
    {slot : Slot} {ledger : Ledger} (hnone : slot.grievance ledger = none) :
    slot.score ledger .strict = .ok (slot, slot.totalScore ledger) := by
  simp only [score, validated, hnone]
  rfl

theorem score_strict_of_grievance_some
    {slot : Slot} {ledger : Ledger} {grievance : Grievance}
    (hsome : slot.grievance ledger = some grievance) :
    slot.score ledger .strict =
      .error (.suboptimalAttendance grievance.user
        ((slot.attending grievance.user).getD grievance.preferred) grievance.preferred) := by
  simp only [score, validated, hsome]
  rfl

/-- Where nobody is aggrieved, scoring leaves the slot as it is under either validation. -/
theorem score_of_not_aggrieved
    {slot : Slot} {ledger : Ledger} (hledger : ledger.Coherent)
    (hcontent : ∀ user, ¬ slot.Aggrieved ledger user) (validation : Validation) :
    slot.score ledger validation = .ok (slot, slot.totalScore ledger) := by
  cases validation with
  | production => rw [score_production, (settled_eq_self_iff hledger).2 hcontent]
  | strict => exact score_strict_of_grievance_none ((grievance_eq_none_iff hledger).2 hcontent)

/-! ## The sum by discussion and the sum by user -/

theorem score_foldl_add {α : Type} (elements : List α) (part : α → Score) (start : Score) :
    (elements.foldl (fun total element => total + part element) start).score =
      start.score + total (elements.map fun element => (part element).score) := by
  induction elements generalizing start with
  | nil => rfl
  | cons element rest ih => simp [ih, Nat.add_assoc]

theorem score_sum (scores : List Score) :
    scores.sum.score = total (scores.map Score.score) := by
  induction scores with
  | nil => rfl
  | cons score rest ih =>
      rw [List.sum_cons, Score.score_add, ih]
      rfl

theorem total_comm {α β : Type} (rows : List α) (columns : List β) (amount : α → β → Nat) :
    total (rows.map fun row => total (columns.map fun column => amount row column)) =
      total (columns.map fun column => total (rows.map fun row => amount row column)) := by
  induction rows with
  | nil => exact (total_map_zero columns).symm
  | cons row rest ih => simp [ih, total_map_add]

theorem score_discussionScore
    {ledger : Ledger} (hledger : ledger.Coherent) (slot : Slot) (discussion : DiscussionId) :
    (slot.discussionScore ledger discussion).score =
      total (ledger.userIds.map fun user =>
        if slot.attending user = some discussion then ledger.interest user discussion else 0) := by
  have hentries := hledger.total_interested discussion
    (fun wish => if slot.attending wish.1 = some discussion then wish.2 else 0)
    (fun user => by split <;> rfl)
  unfold discussionScore
  rw [← hentries]
  have hloop := score_foldl_add (ledger.interested discussion)
    (fun wish : UserId × Nat =>
      if slot.attending wish.1 = some discussion then (⟨wish.2, 0⟩ : Score) else ⟨0, wish.2⟩) 0
  refine hloop.trans ?_
  rw [Score.score_zero, Nat.zero_add]
  congr 1
  apply List.map_congr_left
  intro wish _
  split <;> rfl

/-- A user counts once for every listing of the discussion they attend. -/
theorem score_totalScore
    {ledger : Ledger} (hledger : ledger.Coherent) (slot : Slot) :
    (slot.totalScore ledger).score =
      total (ledger.userIds.map fun user => total (slot.discussions.map fun discussion =>
        if slot.attending user = some discussion then ledger.interest user discussion else 0)) := by
  unfold totalScore
  rw [score_sum, List.map_map, ← total_comm]
  congr 1
  apply List.map_congr_left
  intro discussion _
  exact score_discussionScore hledger slot discussion

theorem total_listings
    (ledger : Ledger) (user : UserId) (attended : DiscussionId)
    (discussions : List DiscussionId) :
    total (discussions.map fun discussion =>
        if some attended = some discussion then ledger.interest user discussion else 0) =
      discussions.count attended * ledger.interest user attended := by
  induction discussions with
  | nil => simp
  | cons discussion rest ih =>
      rw [List.map_cons, total_cons, ih]
      by_cases hattended : attended = discussion
      · subst discussion
        rw [if_pos rfl, List.count_cons_self, Nat.succ_mul, Nat.add_comm]
      · have hne : some attended ≠ some discussion := fun h => hattended (Option.some.inj h)
        rw [if_neg hne, List.count_cons_of_ne (fun h => hattended h.symm), Nat.zero_add]

theorem WellFormed.total_listings_eq
    {slot : Slot} (hslot : slot.WellFormed) (ledger : Ledger) (user : UserId) :
    total (slot.discussions.map fun discussion =>
        if slot.attending user = some discussion then ledger.interest user discussion else 0) =
      slot.currentInterest ledger user := by
  rw [currentInterest_eq]
  cases hattending : slot.attending user with
  | none =>
      simp only [reduceCtorEq, if_false]
      exact total_map_zero slot.discussions
  | some attended =>
      have hcount := List.count_eq_one_of_mem hslot.nodup (hslot.listed user attended hattending)
      rw [total_listings, hcount, Nat.one_mul]
      rfl

theorem WellFormed.score_totalScore_eq
    {slot : Slot} (hslot : slot.WellFormed) {ledger : Ledger} (hledger : ledger.Coherent)
    (hoptimal : slot.Optimal ledger) :
    (slot.totalScore ledger).score = ledger.worth slot.discussions := by
  rw [score_totalScore hledger]
  unfold worth
  congr 1
  apply List.map_congr_left
  intro user _
  rw [hslot.total_listings_eq, hoptimal user]

/-- What is achieved and what is missed are together what a discussion can achieve. -/
theorem score_add_missed_discussionScore
    (slot : Slot) (ledger : Ledger) (discussion : DiscussionId) :
    (slot.discussionScore ledger discussion).score +
        (slot.discussionScore ledger discussion).missed =
      total ((ledger.interested discussion).map (·.2)) := by
  unfold discussionScore
  induction ledger.interested discussion using List.reverseRecOn with
  | nil => rfl
  | append_singleton wishes wish ih =>
      rw [List.foldl_append, List.foldl_cons, List.foldl_nil, List.map_append, total_append, ← ih,
        Score.score_add, Score.missed_add, List.map_singleton, total_cons, total_nil]
      split <;> dsimp only <;> omega

theorem score_add_missed_totalScore (slot : Slot) (ledger : Ledger) :
    (slot.totalScore ledger).score + (slot.totalScore ledger).missed =
      total (slot.discussions.map fun discussion =>
        total ((ledger.interested discussion).map (·.2))) := by
  unfold totalScore
  induction slot.discussions with
  | nil => rfl
  | cons discussion rest ih =>
      rw [List.map_cons, List.map_cons, List.sum_cons, total_cons, ← ih, Score.score_add,
        Score.missed_add, ← score_add_missed_discussionScore slot ledger discussion]
      omega

/-- Slots of the same discussions that achieve as much miss as much. -/
theorem totalScore_eq_of_perm
    {left right : Slot} {ledger : Ledger} (hperm : left.discussions.Perm right.discussions)
    (hscore : (left.totalScore ledger).score = (right.totalScore ledger).score) :
    left.totalScore ledger = right.totalScore ledger := by
  have hleft := score_add_missed_totalScore left ledger
  have hright := score_add_missed_totalScore right ledger
  rw [total_eq_of_perm (hperm.map _), ← hright, hscore] at hleft
  have hmissed := Nat.add_left_cancel hleft
  generalize left.totalScore ledger = before at hscore hmissed ⊢
  generalize right.totalScore ledger = after at hscore hmissed ⊢
  cases before
  cases after
  simp_all

/-- Also a slot that lists a discussion several times scores what it is worth at least. -/
theorem Fresh.worth_le_score_totalScore
    {slot : Slot} {ledger : Ledger} (hfresh : slot.Fresh ledger) (hledger : ledger.Coherent) :
    ledger.worth slot.discussions ≤ (slot.totalScore ledger).score := by
  rw [score_totalScore hledger]
  apply total_map_le_total_map
  intro user _
  rw [← hfresh.optimal user, currentInterest_eq]
  cases hattending : slot.attending user with
  | none => exact Nat.zero_le _
  | some attended =>
      have hcount := List.count_pos_iff.2 (hfresh.listed user attended hattending)
      rw [total_listings]
      exact Nat.le_mul_of_pos_left _ hcount

end Slot

end Unconference
