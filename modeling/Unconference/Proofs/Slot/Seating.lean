import Unconference.Proofs.Slot.Objective

/-!
# Seating as it would be worked out anew

Attendance is kept up to date in three ways: an assigned discussion draws those who like it better
than what they attend, the attendees of a removed one look for what they like best of the rest, and
refreshing seats everybody anew.  As long as all of them go by the same ledger they agree, ties
included: everybody with an interest in the slot attends the first of the discussions they like
best.  So the list of discussions determines the slot, however it came about.
-/

namespace Unconference

namespace Slot

open Ledger

/-- Whoever is interested in the slot attends the first of the discussions they like best. -/
structure Seated (slot : Slot) (ledger : Ledger) : Prop where
  absent_iff : ∀ user, slot.attending user = none ↔
    ∀ discussion ∈ slot.discussions, ledger.interest user discussion = 0
  attends_iff : ∀ user discussion, slot.attending user = some discussion ↔
    FirstBest (ledger.interest user) slot.discussions discussion

/-- Slots that the operations lead to, all of them made for the same ledger, from the empty slot or
from any slot with its attendance worked out anew. -/
inductive Tended (ledger : Ledger) : Slot → Prop
  | empty : Tended ledger ∅
  | refresh (slot : Slot) : Tended ledger (slot.refreshed ledger)
  | assign {slot : Slot} (discussion : DiscussionId) :
      Tended ledger slot → Tended ledger (slot.assign ledger discussion).1
  | remove {slot : Slot} (discussion : DiscussionId) :
      Tended ledger slot → Tended ledger (slot.remove ledger discussion).1
  | score {slot : Slot} (validation : Validation) :
      Tended ledger slot → Tended ledger (slot.afterScore ledger validation)

theorem favourite_eq_none_iff {ledger : Ledger} {user : UserId} {discussions : List DiscussionId} :
    favourite ledger user discussions = none ↔
      ∀ discussion ∈ discussions, ledger.interest user discussion = 0 := by
  rw [favourite_eq, changingOver_none_eq_none_iff, ← Nat.le_zero, most_le_iff]
  simp only [Nat.le_zero]

theorem map_favourite_eq_some_iff
    {ledger : Ledger} {user : UserId} {discussions : List DiscussionId}
    {discussion : DiscussionId} :
    (favourite ledger user discussions).map (·.1) = some discussion ↔
      FirstBest (ledger.interest user) discussions discussion := by
  rw [favourite_eq]
  constructor
  · intro hfavourite
    obtain ⟨found, hfound, rfl⟩ := Option.map_eq_some_iff.1 hfavourite
    exact (changingOver_none_eq_some_iff.1 hfound).1
  · intro hfirst
    rw [changingOver_none_eq_some_iff.2 ⟨hfirst, rfl⟩]
    rfl

theorem seated_iff_fresh {slot : Slot} {ledger : Ledger} :
    slot.Seated ledger ↔ slot.Fresh ledger := by
  constructor
  · intro hseated user
    apply Option.ext
    intro discussion
    rw [hseated.attends_iff, map_favourite_eq_some_iff]
  · intro hfresh
    constructor
    · intro user
      rw [hfresh user, Option.map_eq_none_iff, favourite_eq_none_iff]
    · intro user discussion
      rw [hfresh user, map_favourite_eq_some_iff]

theorem Fresh.eq_of_discussions_eq
    {left right : Slot} {ledger : Ledger} (hleft : left.Fresh ledger) (hright : right.Fresh ledger)
    (hdiscussions : left.discussions = right.discussions) : left = right := by
  apply ext_attending hdiscussions
  intro user
  rw [hleft user, hright user, hdiscussions]

theorem refreshed_eq_self_iff {slot : Slot} {ledger : Ledger} (hledger : ledger.Coherent) :
    slot.refreshed ledger = slot ↔ slot.Fresh ledger := by
  have hrefreshed := fresh_refreshed hledger slot
  constructor
  · intro hsame
    rw [← hsame]
    exact hrefreshed
  · intro hfresh
    exact hrefreshed.eq_of_discussions_eq hfresh (discussions_refreshed slot ledger)

theorem Fresh.afterScore
    {slot : Slot} {ledger : Ledger} (hfresh : slot.Fresh ledger) (hledger : ledger.Coherent)
    (validation : Validation) : slot.afterScore ledger validation = slot := by
  unfold Slot.afterScore
  rw [score_of_not_aggrieved hledger hfresh.optimal.not_aggrieved validation]

theorem Tended.fresh
    {slot : Slot} {ledger : Ledger} (htended : slot.Tended ledger) (hledger : ledger.Coherent) :
    slot.Fresh ledger := by
  induction htended with
  | empty => exact fresh_empty ledger
  | refresh slot => exact fresh_refreshed hledger slot
  | assign discussion _ ih => exact ih.assign hledger discussion
  | remove discussion _ ih => exact ih.remove discussion
  | score validation _ ih =>
      rw [ih.afterScore hledger]
      exact ih

end Slot

end Unconference
