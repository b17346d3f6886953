import Unconference.Proofs.Ledger.Worth
import Unconference.Slot.Basic

/-!
# Attendance after every operation

Each operation of a slot is described here by the discussions it leaves and by whom each user
attends afterwards.  Three properties of a slot are read off these descriptions: it is well formed
whatever the ledgers were that it was filled from, nobody in it has a reason to move, and its
attendance is what working it out anew would give.
-/

namespace Unconference

namespace Slot

open Ledger

theorem favourite_eq (ledger : Ledger) (user : UserId) (discussions : List DiscussionId) :
    favourite ledger user discussions = changingOver (ledger.interest user) none discussions := by
  unfold favourite changingOver
  congr 1
  funext best other
  cases best <;> rfl

theorem points_favourite (ledger : Ledger) (user : UserId) (discussions : List DiscussionId) :
    (((favourite ledger user discussions).map (·.1)).map (ledger.interest user)).getD 0 =
      most (ledger.interest user) discussions := by
  rw [favourite_eq]
  rcases changingOver_none_spec (ledger.interest user) discussions with
    ⟨hnone, hmost⟩ | ⟨discussion, hsome, hfirst⟩
  · simp [hnone, hmost]
  · simp [hsome, hfirst.points_eq_most]

theorem currentInterest_eq (slot : Slot) (ledger : Ledger) (user : UserId) :
    slot.currentInterest ledger user =
      ((slot.attending user).map (ledger.interest user)).getD 0 := by
  unfold currentInterest
  cases slot.attending user <;> rfl

theorem currentInterest_congr
    {left right : Slot} {user : UserId} (ledger : Ledger)
    (hattending : left.attending user = right.attending user) :
    left.currentInterest ledger user = right.currentInterest ledger user := by
  rw [currentInterest_eq, currentInterest_eq, hattending]

theorem mem_attendees_iff (slot : Slot) (discussion : DiscussionId) (user : UserId) :
    user ∈ slot.attendees discussion ↔ slot.attending user = some discussion := by
  unfold attendees attending
  rw [IdMap.get?_eq_some_iff]
  simp

theorem nodup_of_ascending
    {α : Type} {entries : List (UserId × α)}
    (hascending : entries.Pairwise fun a b => a.1.number < b.1.number) :
    (entries.map (·.1)).Nodup := by
  refine List.pairwise_map.2 (hascending.imp ?_)
  intro entry other hless heq
  rw [heq] at hless
  exact lt_irrefl _ hless

theorem nodup_attendees (slot : Slot) (discussion : DiscussionId) :
    (slot.attendees discussion).Nodup :=
  nodup_of_ascending (slot.attendance.ascending.filter _)

/-- The users of a ledger who attend a discussion, counted from either side. -/
theorem perm_known_attendees (slot : Slot) (ledger : Ledger) (discussion : DiscussionId) :
    ((slot.attendees discussion).filter (· ∈ ledger.userIds)).Perm
      (ledger.userIds.filter fun user => slot.attending user = some discussion) := by
  have hnodup : ledger.userIds.Nodup := ledger.userIds_ascending.imp fun hless heq => by
    rw [heq] at hless
    exact lt_irrefl _ hless
  rw [List.perm_ext_iff_of_nodup ((nodup_attendees slot discussion).filter _) (hnodup.filter _)]
  intro user
  simp [mem_attendees_iff, and_comm]

@[simp] theorem contains_iff (slot : Slot) (discussion : DiscussionId) :
    slot.contains discussion = true ↔ discussion ∈ slot.discussions := by
  simp [contains]

@[simp] theorem attending_empty (user : UserId) : (∅ : Slot).attending user = none := rfl

@[simp] theorem discussions_empty : (∅ : Slot).discussions = [] := rfl

theorem ext_attending
    {left right : Slot} (hdiscussions : left.discussions = right.discussions)
    (hattending : ∀ user, left.attending user = right.attending user) : left = right := by
  cases left
  cases right
  simp only [mk.injEq]
  exact ⟨hdiscussions, IdMap.ext hattending⟩

/-! ## A change made to one user after the other -/

/-- A loop that changes the slot and adds up numbers on the side. -/
theorem foldl_counting {α : Type} (change : Slot → α → Slot) (amount : α → Nat)
    (elements : List α) (slot : Slot) (start : Nat) :
    elements.foldl
        (fun (state : Slot × Nat) element => (change state.1 element, state.2 + amount element))
        (slot, start) =
      (elements.foldl change slot, start + total (elements.map amount)) := by
  induction elements generalizing slot start with
  | nil => rfl
  | cons element rest ih => simp [ih, Nat.add_assoc]

/-- A loop whose steps leave the discussions alone. -/
theorem discussions_foldl {α : Type} {change : Slot → α → Slot}
    (hkeeps : ∀ slot element, (change slot element).discussions = slot.discussions)
    (elements : List α) (slot : Slot) :
    (elements.foldl change slot).discussions = slot.discussions := by
  induction elements generalizing slot with
  | nil => rfl
  | cons element rest ih => rw [List.foldl_cons, ih, hkeeps]

theorem attending_foldl_seat
    (discussion : DiscussionId) (wishes : List (UserId × Nat)) (slot : Slot) (user : UserId) :
    (wishes.foldl (fun slot wish => slot.seat wish.1 discussion) slot).attending user =
      if user ∈ wishes.map (·.1) then some discussion else slot.attending user := by
  induction wishes generalizing slot with
  | nil => simp
  | cons wish rest ih =>
      rw [List.foldl_cons, ih, attending_seat]
      by_cases huser : wish.1 = user
      · simp [huser]
      · have hne : ¬ user = wish.1 := fun h => huser h.symm
        simp only [List.map_cons, List.mem_cons, huser, hne, if_false, false_or]

theorem discussions_depart (slot : Slot) (departure : Departure) :
    (slot.depart departure).discussions = slot.discussions := by
  unfold depart
  cases departure.replacement <;> rfl

theorem attending_depart (slot : Slot) (departure : Departure) (user : UserId) :
    (slot.depart departure).attending user =
      if departure.user = user then departure.replacement else slot.attending user := by
  unfold depart
  cases hreplacement : departure.replacement with
  | none => exact attending_unseat slot departure.user user
  | some other => exact attending_seat slot departure.user user other

theorem attending_foldl_depart
    (replacement : UserId → Option DiscussionId) {departures : List Departure}
    (hreplacement : ∀ departure ∈ departures,
      departure.replacement = replacement departure.user)
    (slot : Slot) (user : UserId) :
    (departures.foldl depart slot).attending user =
      if user ∈ departures.map Departure.user then replacement user else slot.attending user := by
  induction departures generalizing slot with
  | nil => simp
  | cons departure rest ih =>
      have hhead := hreplacement departure List.mem_cons_self
      have hrest := ih (fun other hmem => hreplacement other (List.mem_cons_of_mem _ hmem))
        (slot.depart departure)
      rw [List.foldl_cons, hrest, attending_depart]
      by_cases huser : departure.user = user
      · simp [huser, hhead]
      · have hne : ¬ user = departure.user := fun h => huser h.symm
        simp [huser, hne]

theorem discussions_offer
    (ledger : Ledger) (discussion : DiscussionId) (slot : Slot) (wish : UserId × Nat) :
    (offer ledger discussion slot wish).discussions = slot.discussions := by
  unfold offer
  split <;> rfl

theorem attending_offer
    (ledger : Ledger) (discussion : DiscussionId) (slot : Slot) (wish : UserId × Nat)
    (user : UserId) :
    (offer ledger discussion slot wish).attending user =
      if wish.1 = user ∧ slot.currentInterest ledger user < wish.2 then some discussion
      else slot.attending user := by
  unfold offer
  by_cases huser : wish.1 = user
  · subst user
    by_cases hlt : slot.currentInterest ledger wish.1 < wish.2 <;> simp [hlt, attending_seat]
  · split <;> simp [huser, attending_seat]

theorem discussions_offerToAll (ledger : Ledger) (slot : Slot) (discussion : DiscussionId) :
    (offerToAll ledger slot discussion).discussions = slot.discussions :=
  discussions_foldl (discussions_offer ledger discussion) _ slot

/-- Whoever takes up the offer is not interested in the same offer again. -/
theorem attending_foldl_offer
    {ledger : Ledger} {discussion : DiscussionId} {wishes : List (UserId × Nat)}
    (hwishes : ∀ wish ∈ wishes, wish.2 = ledger.interest wish.1 discussion)
    (slot : Slot) (user : UserId) :
    (wishes.foldl (offer ledger discussion) slot).attending user =
      if user ∈ wishes.map (·.1) ∧
          slot.currentInterest ledger user < ledger.interest user discussion
      then some discussion
      else slot.attending user := by
  induction wishes generalizing slot with
  | nil => simp
  | cons wish rest ih =>
      have hhead := hwishes wish List.mem_cons_self
      have hrest := ih (fun other hmem => hwishes other (List.mem_cons_of_mem _ hmem))
        (offer ledger discussion slot wish)
      have hoffer := attending_offer ledger discussion slot wish user
      rw [List.foldl_cons, hrest]
      by_cases huser : wish.1 = user
      · subst user
        rw [hhead] at hoffer
        by_cases hlt : slot.currentInterest ledger wish.1 < ledger.interest wish.1 discussion
        · rw [if_pos ⟨rfl, hlt⟩] at hoffer
          have hcurrent : (offer ledger discussion slot wish).currentInterest ledger wish.1 =
              ledger.interest wish.1 discussion := by
            rw [currentInterest_eq, hoffer]
            rfl
          rw [hcurrent, hoffer]
          simp [hlt]
        · rw [if_neg (by simp [hlt])] at hoffer
          rw [currentInterest_congr ledger hoffer, hoffer]
          simp only [hlt, and_false, if_false]
      · have hne : ¬ user = wish.1 := fun h => huser h.symm
        rw [if_neg (by simp [huser])] at hoffer
        rw [currentInterest_congr ledger hoffer, hoffer]
        simp only [List.map_cons, List.mem_cons, hne, false_or]

/-! ## The operations -/

section

variable {ledger : Ledger} (hledger : ledger.Coherent)

include hledger

theorem mem_map_interested (discussion : DiscussionId) (user : UserId) :
    user ∈ (ledger.interested discussion).map (·.1) ↔ 0 < ledger.interest user discussion := by
  constructor
  · intro hmem
    obtain ⟨⟨other, points⟩, hentry, rfl⟩ := List.mem_map.1 hmem
    exact ((hledger.mem_interested discussion other points).1 hentry).1
  · intro hpos
    exact List.mem_map.2
      ⟨(user, _), (hledger.mem_interested discussion user _).2 ⟨hpos, rfl⟩, rfl⟩

theorem attending_offerToAll (slot : Slot) (discussion : DiscussionId) (user : UserId) :
    (offerToAll ledger slot discussion).attending user =
      if slot.currentInterest ledger user < ledger.interest user discussion
      then some discussion
      else slot.attending user := by
  unfold offerToAll
  have hwishes : ∀ wish ∈ ledger.interested discussion,
      wish.2 = ledger.interest wish.1 discussion := by
    rintro ⟨other, points⟩ hmem
    exact ((hledger.mem_interested discussion other points).1 hmem).2.symm
  rw [attending_foldl_offer hwishes]
  by_cases hlt : slot.currentInterest ledger user < ledger.interest user discussion
  · have hmem := (mem_map_interested hledger discussion user).2 (Nat.zero_lt_of_lt hlt)
    rw [if_pos ⟨hmem, hlt⟩, if_pos hlt]
  · rw [if_neg (fun h => hlt h.2), if_neg hlt]

theorem mem_switchers_iff
    (slot : Slot) (discussion : DiscussionId) (user : UserId) (gained : Nat) :
    (user, gained) ∈ slot.switchers ledger discussion ↔
      slot.currentInterest ledger user < ledger.interest user discussion ∧
        gained = ledger.interest user discussion - slot.currentInterest ledger user := by
  unfold switchers
  rw [List.mem_filterMap]
  constructor
  · rintro ⟨⟨other, points⟩, hmem, hswitch⟩
    obtain ⟨_, rfl⟩ := (hledger.mem_interested discussion other points).1 hmem
    simp only [Option.ite_none_right_eq_some, Option.some.injEq, Prod.mk.injEq] at hswitch
    obtain ⟨hlt, rfl, rfl⟩ := hswitch
    exact ⟨hlt, rfl⟩
  · rintro ⟨hlt, rfl⟩
    refine ⟨(user, ledger.interest user discussion), ?_, by simp [hlt]⟩
    exact (hledger.mem_interested discussion user _).2 ⟨Nat.zero_lt_of_lt hlt, rfl⟩

theorem mem_map_switchers (slot : Slot) (discussion : DiscussionId) (user : UserId) :
    user ∈ (slot.switchers ledger discussion).map (·.1) ↔
      slot.currentInterest ledger user < ledger.interest user discussion := by
  constructor
  · intro hmem
    obtain ⟨⟨other, gained⟩, hentry, rfl⟩ := List.mem_map.1 hmem
    exact ((mem_switchers_iff hledger slot discussion other gained).1 hentry).1
  · intro hlt
    exact List.mem_map.2
      ⟨(user, _), (mem_switchers_iff hledger slot discussion user _).2 ⟨hlt, rfl⟩, rfl⟩

end

theorem assign_of_mem
    {slot : Slot} {discussion : DiscussionId} (ledger : Ledger)
    (hmem : discussion ∈ slot.discussions) : slot.assign ledger discussion = (slot, 0) := by
  unfold assign
  rw [if_pos ((slot.contains_iff discussion).2 hmem)]

theorem assign_of_not_mem
    {slot : Slot} {discussion : DiscussionId} (ledger : Ledger)
    (hmem : discussion ∉ slot.discussions) :
    slot.assign ledger discussion =
      ({ (slot.switchers ledger discussion).foldl
            (fun slot switcher => slot.seat switcher.1 discussion) slot with
          discussions := slot.discussions ++ [discussion] },
        slot.gain ledger discussion) := by
  have hcontains : ¬ slot.contains discussion = true := by
    rw [contains_iff]
    exact hmem
  have hloop := foldl_counting (fun slot (switcher : UserId × Nat) =>
    slot.seat switcher.1 discussion) (·.2) (slot.switchers ledger discussion) slot 0
  unfold assign gain
  rw [if_neg hcontains, if_neg hcontains]
  have hkeeps := discussions_foldl (fun slot (switcher : UserId × Nat) =>
    (rfl : (slot.seat switcher.1 discussion).discussions = slot.discussions))
    (slot.switchers ledger discussion) slot
  simp only [hloop, hkeeps, Nat.zero_add]

/-- What assigning a discussion adds is what was announced. -/
theorem assign_snd (slot : Slot) (ledger : Ledger) (discussion : DiscussionId) :
    (slot.assign ledger discussion).2 = slot.gain ledger discussion := by
  by_cases hmem : discussion ∈ slot.discussions
  · rw [assign_of_mem ledger hmem]
    unfold gain
    rw [if_pos ((slot.contains_iff discussion).2 hmem)]
  · rw [assign_of_not_mem ledger hmem]

theorem discussions_assign (slot : Slot) (ledger : Ledger) (discussion : DiscussionId) :
    (slot.assign ledger discussion).1.discussions =
      if discussion ∈ slot.discussions then slot.discussions
      else slot.discussions ++ [discussion] := by
  by_cases hmem : discussion ∈ slot.discussions
  · rw [assign_of_mem ledger hmem, if_pos hmem]
  · rw [assign_of_not_mem ledger hmem, if_neg hmem]

@[simp] theorem mem_discussions_assign_iff
    {slot : Slot} {ledger : Ledger} {discussion other : DiscussionId} :
    other ∈ (slot.assign ledger discussion).1.discussions ↔
      other ∈ slot.discussions ∨ other = discussion := by
  rw [discussions_assign]
  split
  · rename_i hmem
    refine ⟨.inl, ?_⟩
    rintro (hother | rfl)
    · exact hother
    · exact hmem
  · rw [List.mem_append, List.mem_singleton]

theorem nodup_assign
    {slot : Slot} (hnodup : slot.discussions.Nodup) (ledger : Ledger)
    (discussion : DiscussionId) : (slot.assign ledger discussion).1.discussions.Nodup := by
  rw [discussions_assign]
  split
  · exact hnodup
  · rename_i habsent
    exact hnodup.append (List.nodup_singleton _) (List.disjoint_singleton.2 habsent)

theorem attending_assign
    {ledger : Ledger} (hledger : ledger.Coherent) {slot : Slot} {discussion : DiscussionId}
    (hmem : discussion ∉ slot.discussions) (user : UserId) :
    (slot.assign ledger discussion).1.attending user =
      if slot.currentInterest ledger user < ledger.interest user discussion
      then some discussion
      else slot.attending user := by
  rw [assign_of_not_mem ledger hmem]
  change ((slot.switchers ledger discussion).foldl
    (fun slot switcher => slot.seat switcher.1 discussion) slot).attending user = _
  rw [attending_foldl_seat]
  simp only [mem_map_switchers hledger]

theorem remove_of_not_mem
    {slot : Slot} {discussion : DiscussionId} (ledger : Ledger)
    (hmem : discussion ∉ slot.discussions) : slot.remove ledger discussion = (slot, 0) := by
  unfold remove
  rw [if_neg (by rw [contains_iff]; exact hmem)]

theorem remove_of_mem
    {slot : Slot} {discussion : DiscussionId} (ledger : Ledger)
    (hmem : discussion ∈ slot.discussions) :
    slot.remove ledger discussion =
      ({ (slot.departures ledger discussion).foldl depart slot with
          discussions := slot.discussions.filter (· ≠ discussion) },
        slot.loss ledger discussion) := by
  have hcontains := (slot.contains_iff discussion).2 hmem
  have hloop := foldl_counting depart Departure.cost (slot.departures ledger discussion) slot 0
  unfold remove loss
  rw [if_pos hcontains, if_pos hcontains]
  simp only [hloop, discussions_foldl discussions_depart, Nat.zero_add]

theorem discussions_remove (slot : Slot) (ledger : Ledger) (discussion : DiscussionId) :
    (slot.remove ledger discussion).1.discussions =
      slot.discussions.filter (· ≠ discussion) := by
  by_cases hmem : discussion ∈ slot.discussions
  · rw [remove_of_mem ledger hmem]
  · rw [remove_of_not_mem ledger hmem]
    symm
    rw [List.filter_eq_self]
    intro other hother
    have hne : other ≠ discussion := fun h => hmem (h ▸ hother)
    simpa using hne

@[simp] theorem mem_discussions_remove_iff
    {slot : Slot} {ledger : Ledger} {discussion other : DiscussionId} :
    other ∈ (slot.remove ledger discussion).1.discussions ↔
      other ∈ slot.discussions ∧ other ≠ discussion := by
  rw [discussions_remove, List.mem_filter, decide_eq_true_iff]

/-- Nothing is listed twice, so taking all of a discussion out takes out one listing. -/
theorem filter_ne_eq_erase
    {discussions : List DiscussionId} (hnodup : discussions.Nodup) (discussion : DiscussionId) :
    discussions.filter (· ≠ discussion) = discussions.erase discussion := by
  rw [hnodup.erase_eq_filter]
  apply List.filter_congr
  intro other _
  by_cases hother : other = discussion <;> simp [hother]

theorem attending_remove
    (slot : Slot) (ledger : Ledger) {discussion : DiscussionId}
    (hmem : discussion ∈ slot.discussions) (user : UserId) :
    (slot.remove ledger discussion).1.attending user =
      if slot.attending user = some discussion
      then (favourite ledger user (slot.discussions.filter (· ≠ discussion))).map (·.1)
      else slot.attending user := by
  rw [remove_of_mem ledger hmem]
  change ((slot.departures ledger discussion).foldl depart slot).attending user = _
  rw [attending_foldl_depart fun user =>
    (favourite ledger user (slot.discussions.filter (· ≠ discussion))).map (·.1)]
  · have husers : (slot.departures ledger discussion).map Departure.user =
        slot.attendees discussion := by
      unfold departures
      rw [List.map_map]
      exact List.map_id _
    simp only [husers, mem_attendees_iff]
  · intro departure hdeparture
    obtain ⟨user, _, rfl⟩ := List.mem_map.1 hdeparture
    rfl

@[simp] theorem discussions_refreshed (slot : Slot) (ledger : Ledger) :
    (slot.refreshed ledger).discussions = slot.discussions := by
  unfold refreshed
  rw [discussions_foldl (discussions_offerToAll ledger)]

/-- Offering one discussion after the other seats everybody in their favourite. -/
theorem attending_refreshed
    {ledger : Ledger} (hledger : ledger.Coherent) (slot : Slot) (user : UserId) :
    (slot.refreshed ledger).attending user =
      (favourite ledger user slot.discussions).map (·.1) := by
  unfold refreshed
  have hnobody : ({ slot with attendance := ∅ } : Slot).attending user = none := rfl
  generalize ({ slot with attendance := ∅ } : Slot) = start at hnobody ⊢
  induction slot.discussions using List.reverseRecOn with
  | nil => exact hnobody
  | append_singleton offered discussion ih =>
      rw [List.foldl_append, List.foldl_cons, List.foldl_nil, attending_offerToAll hledger,
        currentInterest_eq, ih, points_favourite, favourite_eq, favourite_eq,
        changingOver_append_singleton, changingOver_none_points]
      split <;> rfl

end Slot

end Unconference
