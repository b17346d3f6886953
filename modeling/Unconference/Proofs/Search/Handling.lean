import Unconference.Proofs.Random.Draws
import Unconference.Proofs.Schedule.Listings
import Unconference.Search.Greedy

/-!
# Handling discussions

Every strategy handles one discussion at a time: it takes the next one in hand and puts it into an
open slot or spares it, or it takes one out of a slot that is not locked.  `Handling` is that
relation between what is in hand and scheduled before and after, and tells in which case a
discussion may be spared.  The strategies are such handlings, so whatever a single step preserves
holds of the schedules they build.
-/

namespace Unconference

section

variable {ledger : Ledger} {spared : Schedule → DiscussionId → Prop}

inductive Handling (ledger : Ledger) (spared : Schedule → DiscussionId → Prop) :
    List DiscussionId → Schedule → List DiscussionId → Schedule → Prop
  | done (hand : List DiscussionId) (schedule : Schedule) :
      Handling ledger spared hand schedule hand schedule
  | put {hand handAfter : List DiscussionId} {schedule after : Schedule} {index : Nat}
      {discussion : DiscussionId} (hopen : index ∈ schedule.openSlots ledger discussion) :
      Handling ledger spared hand (schedule.assign ledger index discussion) handAfter after →
      Handling ledger spared (discussion :: hand) schedule handAfter after
  | spare {hand handAfter : List DiscussionId} {schedule after : Schedule}
      {discussion : DiscussionId} (hspared : spared schedule discussion) :
      Handling ledger spared hand schedule handAfter after →
      Handling ledger spared (discussion :: hand) schedule handAfter after
  | take {hand handAfter : List DiscussionId} {schedule after : Schedule} {index : Nat}
      {slot : Slot} {discussion : DiscussionId} (hopen : schedule.isLocked index = false)
      (hslot : schedule.slot? index = some slot) (hlisted : discussion ∈ slot.discussions) :
      Handling ledger spared (hand ++ [discussion]) (schedule.remove ledger index discussion)
        handAfter after →
      Handling ledger spared hand schedule handAfter after

theorem Handling.trans
    {hand middle last : List DiscussionId} {schedule between after : Schedule}
    (hfirst : Handling ledger spared hand schedule middle between)
    (hsecond : Handling ledger spared middle between last after) :
    Handling ledger spared hand schedule last after := by
  induction hfirst with
  | done => exact hsecond
  | put hopen _ ih => exact .put hopen (ih hsecond)
  | spare hspared _ ih => exact .spare hspared (ih hsecond)
  | take hopen hslot hlisted _ ih => exact .take hopen hslot hlisted (ih hsecond)

theorem Handling.mono
    {sparedToo : Schedule → DiscussionId → Prop}
    (himp : ∀ schedule discussion, spared schedule discussion → sparedToo schedule discussion)
    {hand handAfter : List DiscussionId} {schedule after : Schedule}
    (hhandling : Handling ledger spared hand schedule handAfter after) :
    Handling ledger sparedToo hand schedule handAfter after := by
  induction hhandling with
  | done hand schedule => exact .done hand schedule
  | put hopen _ ih => exact .put hopen ih
  | spare hspared _ ih => exact .spare (himp _ _ hspared) ih
  | take hopen hslot hlisted _ ih => exact .take hopen hslot hlisted ih

end

namespace Schedule

/-! ## The greedy loop -/

/-- The most that a discussion adds in any of the slots it may be put into. -/
def bestGain (ledger : Ledger) (schedule : Schedule) (discussion : DiscussionId) : Nat :=
  most (schedule.gainAt ledger discussion) (schedule.openSlots ledger discussion)

def AddsNothing (ledger : Ledger) (schedule : Schedule) (discussion : DiscussionId) : Prop :=
  schedule.bestGain ledger discussion = 0

theorem bestAmong_eq
    (schedule : Schedule) (ledger : Ledger) (discussion : DiscussionId) (indices : List Nat) :
    schedule.bestAmong ledger discussion indices =
      changingOver (schedule.gainAt ledger discussion) none indices := by
  unfold bestAmong changingOver
  congr 1
  funext best index
  cases best <;> rfl

theorem placeGreedily_cases (ledger : Ledger) (schedule : Schedule) (discussion : DiscussionId) :
    (schedule.AddsNothing ledger discussion ∧
        schedule.placeGreedily ledger discussion = schedule) ∨
      ∃ index,
        FirstBest (schedule.gainAt ledger discussion) (schedule.openSlots ledger discussion)
            index ∧
          schedule.placeGreedily ledger discussion =
            schedule.assign ledger index discussion := by
  unfold placeGreedily
  rw [bestAmong_eq]
  rcases changingOver_none_spec (schedule.gainAt ledger discussion)
      (schedule.openSlots ledger discussion) with
    ⟨hnone, hmost⟩ | ⟨index, hfound, hfirst⟩
  · rw [hnone]
    exact .inl ⟨hmost, rfl⟩
  · rw [hfound]
    exact .inr ⟨index, hfirst, rfl⟩

theorem handling_placeGreedily
    (ledger : Ledger) (schedule : Schedule) (discussion : DiscussionId)
    (rest : List DiscussionId) :
    Handling ledger (AddsNothing ledger) (discussion :: rest) schedule
      rest (schedule.placeGreedily ledger discussion) := by
  rcases placeGreedily_cases ledger schedule discussion with
    ⟨hnothing, hplaced⟩ | ⟨index, hfirst, hplaced⟩
  · rw [hplaced]
    exact .spare hnothing (.done rest schedule)
  · rw [hplaced]
    exact .put hfirst.mem (.done rest _)

theorem handling_foldl_placeGreedily
    (ledger : Ledger) (schedule : Schedule) (hand : List DiscussionId) :
    Handling ledger (AddsNothing ledger) hand schedule
      [] (hand.foldl (placeGreedily ledger) schedule) := by
  induction hand generalizing schedule with
  | nil => exact .done [] schedule
  | cons discussion rest ih =>
      rw [List.foldl_cons]
      exact (handling_placeGreedily ledger schedule discussion rest).trans (ih _)

/-! ## Random steps -/

variable {σ : Type} [RandomSource σ]

/-- A discussion may not be put into any slot. -/
def Excludes (ledger : Ledger) (schedule : Schedule) (discussion : DiscussionId) : Prop :=
  schedule.openSlots ledger discussion = []

theorem Excludes.addsNothing
    {ledger : Ledger} {schedule : Schedule} {discussion : DiscussionId}
    (hexcludes : schedule.Excludes ledger discussion) :
    schedule.AddsNothing ledger discussion := by
  unfold AddsNothing bestGain
  rw [hexcludes, most_nil]

theorem handling_assignRandomly
    (ledger : Ledger) (schedule : Schedule) (discussion : DiscussionId)
    (rest : List DiscussionId) (source : σ) :
    Yields source
      (fun assigned => Handling ledger (Excludes ledger) (discussion :: rest) schedule
        rest assigned.2)
      (schedule.assignRandomly ledger discussion source) := by
  unfold assignRandomly
  refine (drawElement_yields _ source).bind ?_
  intro chosen later hchosen
  cases chosen with
  | none => exact .pure (.spare hchosen (.done rest schedule))
  | some index => exact .pure (.put hchosen (.done rest _))

theorem handling_assignAllRandomly
    (ledger : Ledger) (schedule : Schedule) (hand : List DiscussionId) (source : σ) :
    Yields source (fun after => Handling ledger (Excludes ledger) hand schedule [] after)
      (assignAllRandomly ledger hand schedule source) := by
  induction hand generalizing schedule source with
  | nil => exact .pure (.done [] schedule)
  | cons discussion rest ih =>
      unfold assignAllRandomly
      refine (handling_assignRandomly ledger schedule discussion rest source).bind ?_
      rintro ⟨placed, between⟩ later hfirst
      refine (ih between later).imp ?_
      intro after hrest
      exact hfirst.trans hrest

/-- What an eviction takes comes from a slot that is not locked; it takes nothing only if there is
nothing in those slots. -/
def EvictedFrom (ledger : Ledger) (schedule : Schedule) : Option (DiscussionId × Schedule) → Prop
  | none => schedule.occupiedSlots = []
  | some (discussion, after) =>
    ∃ index slot, schedule.isLocked index = false ∧ schedule.slot? index = some slot ∧
      discussion ∈ slot.discussions ∧ after = schedule.remove ledger index discussion

theorem evictOne_yields (ledger : Ledger) (schedule : Schedule) (source : σ) :
    Yields source (EvictedFrom ledger schedule) (schedule.evictOne ledger source) := by
  unfold evictOne
  refine (drawElement_yields _ source).bind ?_
  intro chosen later hchosen
  cases chosen with
  | none => exact .pure hchosen
  | some index =>
      obtain ⟨hopen, slot, hslot, hoccupied⟩ := mem_occupiedSlots_iff.1 hchosen
      refine (drawElement_yields _ later).bind ?_
      intro evicted last hevicted
      rw [discussionsAt_eq hslot] at hevicted
      cases evicted with
      | none => exact absurd hevicted hoccupied
      | some discussion => exact .pure ⟨index, slot, hopen, hslot, hevicted, rfl⟩

theorem handling_evictOne
    (ledger : Ledger) (spared : Schedule → DiscussionId → Prop) (schedule : Schedule)
    (hand : List DiscussionId) (source : σ) :
    Yields source
      (fun taken => ∀ discussion after, taken = some (discussion, after) →
        Handling ledger spared hand schedule (hand ++ [discussion]) after)
      (schedule.evictOne ledger source) := by
  refine (evictOne_yields ledger schedule source).imp ?_
  rintro taken hevicted discussion after rfl
  obtain ⟨index, slot, hopen, hslot, hlisted, rfl⟩ := hevicted
  exact .take hopen hslot hlisted (.done _ _)

theorem handling_evict
    (ledger : Ledger) (spared : Schedule → DiscussionId → Prop) (schedule : Schedule)
    (count : Nat) (hand : List DiscussionId) (source : σ) :
    Yields source
      (fun evicted => Handling ledger spared hand schedule (hand ++ evicted.1) evicted.2)
      (schedule.evict ledger count source) := by
  induction count generalizing schedule hand source with
  | zero =>
      refine .pure ?_
      rw [List.append_nil]
      exact .done hand schedule
  | succ count ih =>
      unfold evict
      refine (handling_evictOne ledger spared schedule hand source).bind ?_
      intro taken later htaken
      cases taken with
      | none =>
          refine .pure ?_
          rw [List.append_nil]
          exact .done hand schedule
      | some taken =>
          -- what is taken goes to the end of the hand, so the hand ends with the list in order
          obtain ⟨discussion, between⟩ := taken
          refine (ih between (hand ++ [discussion]) later).bind ?_
          rintro ⟨evicted, after⟩ last hevicted
          refine .pure ((htaken discussion between rfl).trans ?_)
          simpa using hevicted

theorem handling_mutate
    (ledger : Ledger) (schedule : Schedule) (most : Nat) (source : σ) :
    Yields source
      (fun mutated => Handling ledger (Excludes ledger) [] schedule [] mutated.2)
      (schedule.mutate ledger most source) := by
  unfold mutate
  have hpos : 0 < max most 1 := by omega
  refine (drawCount_yields hpos source).bind ?_
  intro count afterCount _
  refine (handling_evict ledger (Excludes ledger) schedule count [] afterCount).bind ?_
  rintro ⟨evicted, between⟩ afterEvict hevict
  refine (handling_assignAllRandomly ledger between evicted afterEvict).bind ?_
  intro after last hassign
  exact .pure (hevict.trans hassign)

end Schedule

end Unconference
