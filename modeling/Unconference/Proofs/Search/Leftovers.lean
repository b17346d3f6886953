import Unconference.Proofs.Search.Approximation
import Unconference.Proofs.Search.Seating
import Unconference.Proofs.Slot.Deltas

/-!
# What the greedy schedule leaves out

The greedy loop passes over a discussion because it adds nothing at that moment.  Afterwards slots
only gain discussions, and the more a slot holds the less another discussion adds there, so what was
passed over still adds nothing in the end.  The score is what the locked slots score and what every
single placement added.
-/

namespace Unconference

/-! ## Growing schedules -/

namespace Schedule

/-- The later schedule lists in every slot whatever the earlier one lists there. -/
structure GrowsTo (schedule later : Schedule) : Prop where
  size : later.size = schedule.size
  locked : later.locked = schedule.locked
  listed : ∀ index,
    (schedule.discussionsAt index).getD [] ⊆ (later.discussionsAt index).getD []

variable {schedule later : Schedule} {ledger : Ledger} {discussion : DiscussionId} {index : Nat}

theorem GrowsTo.refl (schedule : Schedule) : schedule.GrowsTo schedule :=
  ⟨rfl, rfl, fun _ => List.Subset.refl _⟩

theorem GrowsTo.trans {last : Schedule}
    (hfirst : schedule.GrowsTo later) (hsecond : later.GrowsTo last) : schedule.GrowsTo last where
  size := hsecond.size.trans hfirst.size
  locked := hsecond.locked.trans hfirst.locked
  listed index := List.Subset.trans (hfirst.listed index) (hsecond.listed index)

theorem growsTo_assign (ledger : Ledger) (schedule : Schedule) (index : Nat)
    (discussion : DiscussionId) : schedule.GrowsTo (schedule.assign ledger index discussion) where
  size := size_modifySlot _
  locked := rfl
  listed := Snapshot.subset_discussionsAt_assign ledger schedule index discussion

theorem growsTo_placeGreedily (ledger : Ledger) (schedule : Schedule)
    (discussion : DiscussionId) :
    schedule.GrowsTo (schedule.placeGreedily ledger discussion) := by
  rcases placeGreedily_cases ledger schedule discussion with ⟨_, hplaced⟩ | ⟨index, _, hplaced⟩
  · rw [hplaced]
    exact .refl schedule
  · rw [hplaced]
    exact growsTo_assign ledger schedule index discussion

theorem growsTo_foldl_placeGreedily (ledger : Ledger) (schedule : Schedule)
    (hand : List DiscussionId) :
    schedule.GrowsTo (hand.foldl (placeGreedily ledger) schedule) := by
  induction hand generalizing schedule with
  | nil => exact .refl schedule
  | cons discussion rest ih =>
      exact (growsTo_placeGreedily ledger schedule discussion).trans (ih _)

theorem GrowsTo.openSlots_eq
    (hgrows : schedule.GrowsTo later) (ledger : Ledger) (discussion : DiscussionId) :
    later.openSlots ledger discussion = schedule.openSlots ledger discussion :=
  openSlots_congr hgrows.size hgrows.locked ledger discussion

theorem GrowsTo.gainAt_le
    (hgrows : schedule.GrowsTo later) (hledger : ledger.Coherent) (hfresh : schedule.Fresh ledger)
    (hlater : later.Fresh ledger) (hlt : index < schedule.size) :
    later.gainAt ledger discussion index ≤ schedule.gainAt ledger discussion index := by
  rw [hfresh.gainAt_eq hledger hlt, hlater.gainAt_eq hledger (hgrows.size ▸ hlt)]
  exact Ledger.addedWorth_anti (hgrows.listed index) discussion

theorem AddsNothing.of_growsTo
    (hnothing : schedule.AddsNothing ledger discussion) (hgrows : schedule.GrowsTo later)
    (hledger : ledger.Coherent) (hfresh : schedule.Fresh ledger) (hlater : later.Fresh ledger) :
    later.AddsNothing ledger discussion := by
  unfold AddsNothing bestGain at hnothing ⊢
  rw [hgrows.openSlots_eq, ← Nat.le_zero, most_le_iff]
  intro index hopen
  have hlt := (mem_openSlots_iff.1 hopen).1
  have hbefore : schedule.gainAt ledger discussion index ≤ 0 := hnothing ▸ le_most hopen
  exact (hgrows.gainAt_le hledger hfresh hlater hlt).trans hbefore

theorem AddsNothing.gainAt_eq_zero
    (hnothing : schedule.AddsNothing ledger discussion)
    (hopen : index ∈ schedule.openSlots ledger discussion) :
    schedule.gainAt ledger discussion index = 0 :=
  Nat.le_zero.1 (hnothing ▸ le_most hopen)

/-- A discussion that a search may move is in one of the slots. -/
def ListsOpenly (schedule : Schedule) (discussion : DiscussionId) : Prop :=
  ∃ index, schedule.isLocked index = false ∧
    discussion ∈ (schedule.discussionsAt index).getD []

theorem ListsOpenly.of_growsTo
    (hlisted : schedule.ListsOpenly discussion) (hgrows : schedule.GrowsTo later) :
    later.ListsOpenly discussion := by
  obtain ⟨index, hopen, hmem⟩ := hlisted
  refine ⟨index, ?_, hgrows.listed index hmem⟩
  unfold isLocked
  rw [hgrows.locked]
  exact hopen

theorem mem_discussionsAt_assign (ledger : Ledger) (hlt : index < schedule.size)
    (discussion : DiscussionId) :
    discussion ∈ ((schedule.assign ledger index discussion).discussionsAt index).getD [] := by
  obtain ⟨slot, hslot⟩ := slot?_eq_some_of_lt hlt
  refine mem_discussionsAt_iff.2 ⟨(slot.assign ledger discussion).1, ?_, ?_⟩
  · unfold assign
    rw [slot?_modifySlot_self, hslot]
    rfl
  · exact Slot.mem_discussions_assign_iff.2 (.inr rfl)

theorem listsOpenly_or_addsNothing (ledger : Ledger) (schedule : Schedule)
    (discussion : DiscussionId) :
    (schedule.placeGreedily ledger discussion).ListsOpenly discussion ∨
      (schedule.placeGreedily ledger discussion).AddsNothing ledger discussion := by
  rcases placeGreedily_cases ledger schedule discussion with
    ⟨hnothing, hplaced⟩ | ⟨index, hfirst, hplaced⟩
  · rw [hplaced]
    exact .inr hnothing
  · obtain ⟨hlt, hopen, _⟩ := mem_openSlots_iff.1 hfirst.mem
    rw [hplaced]
    exact .inl ⟨index, hopen, mem_discussionsAt_assign ledger hlt discussion⟩

/-- What the greedy loop passed over still adds nothing when it has come to the end. -/
theorem listsOpenly_or_addsNothing_foldl
    (hledger : ledger.Coherent) (hfresh : schedule.Fresh ledger) {hand : List DiscussionId}
    (hmem : discussion ∈ hand) :
    (hand.foldl (placeGreedily ledger) schedule).ListsOpenly discussion ∨
      (hand.foldl (placeGreedily ledger) schedule).AddsNothing ledger discussion := by
  induction hand generalizing schedule with
  | nil => cases hmem
  | cons first rest ih =>
      have hstep := (handling_placeGreedily ledger schedule first rest).fresh hledger hfresh
      rw [List.foldl_cons]
      rcases List.mem_cons.1 hmem with rfl | hmem
      · have hgrows := growsTo_foldl_placeGreedily ledger
          (schedule.placeGreedily ledger discussion) rest
        have hlast := (handling_foldl_placeGreedily ledger _ rest).fresh hledger hstep
        exact (listsOpenly_or_addsNothing ledger schedule discussion).imp
          (·.of_growsTo hgrows) (·.of_growsTo hgrows hledger hstep hlast)
      · exact ih hstep hmem

end Schedule

/-! ## What placements add -/

namespace Schedule

/-- The slots that are not locked list nothing twice. -/
def ListsOpenOnce (schedule : Schedule) : Prop :=
  ∀ index slot, schedule.isLocked index = false → schedule.slot? index = some slot →
    slot.discussions.Nodup

variable {schedule : Schedule} {ledger : Ledger} {discussion : DiscussionId} {index : Nat}

theorem ListsOpenOnce.assign
    (honce : schedule.ListsOpenOnce) (ledger : Ledger) (index : Nat)
    (discussion : DiscussionId) : (schedule.assign ledger index discussion).ListsOpenOnce := by
  intro other slot hopen hslot
  rcases slot?_modifySlot_eq_some _ hslot with ⟨before, rfl, hbefore, rfl⟩ | ⟨_, hslot⟩
  · exact Slot.nodup_assign (honce index before hopen hbefore) ledger discussion
  · exact honce other slot hopen hslot

theorem ListsOpenOnce.placeGreedily
    (honce : schedule.ListsOpenOnce) (ledger : Ledger) (discussion : DiscussionId) :
    (schedule.placeGreedily ledger discussion).ListsOpenOnce := by
  rcases placeGreedily_cases ledger schedule discussion with ⟨_, hplaced⟩ | ⟨index, _, hplaced⟩
  · rw [hplaced]
    exact honce
  · rw [hplaced]
    exact honce.assign ledger index discussion

theorem ListsOpenOnce.foldl_placeGreedily
    (honce : schedule.ListsOpenOnce) (ledger : Ledger) (hand : List DiscussionId) :
    (hand.foldl (Schedule.placeGreedily ledger) schedule).ListsOpenOnce := by
  induction hand generalizing schedule with
  | nil => exact honce
  | cons discussion rest ih => exact ih (honce.placeGreedily ledger discussion)

theorem score_totalScore (schedule : Schedule) (ledger : Ledger) :
    (schedule.totalScore ledger).score =
      total (schedule.slots.map fun slot => (slot.totalScore ledger).score) := by
  unfold totalScore
  rw [Slot.score_sum, List.map_map]
  rfl

theorem ListsOpenOnce.score_assign
    (honce : schedule.ListsOpenOnce) (hledger : ledger.Coherent) (hfresh : schedule.Fresh ledger)
    (hopen : index ∈ schedule.openSlots ledger discussion) :
    ((schedule.assign ledger index discussion).totalScore ledger).score =
      (schedule.totalScore ledger).score + schedule.gainAt ledger discussion index := by
  obtain ⟨hlt, hunlocked, _⟩ := mem_openSlots_iff.1 hopen
  obtain ⟨slot, hslot⟩ := slot?_eq_some_of_lt hlt
  obtain ⟨others, hbefore, hafter⟩ :=
    perm_slots_modifySlot (fun slot => (slot.assign ledger discussion).1) hslot
  have hgain : schedule.gainAt ledger discussion index = slot.gain ledger discussion := by
    unfold gainAt
    rw [hslot]
  have hslotFresh := hfresh index slot hslot
  have hwellFormed : slot.WellFormed := ⟨honce index slot hunlocked hslot, hslotFresh.listed⟩
  have hassign := (hwellFormed.atRest hslotFresh.optimal).score_assign hledger discussion
  rw [score_totalScore, score_totalScore, hgain]
  unfold Schedule.assign
  rw [total_eq_of_perm (hbefore.map _), total_eq_of_perm (hafter.map _)]
  simp only [List.map_cons, total_cons, hassign]
  omega

end Schedule

/-! ## The placements of the greedy loop -/

structure Placement where
  discussion : DiscussionId
  index : Nat
  /-- The score that assigning the discussion said it added. -/
  delta : Nat
deriving DecidableEq

namespace Schedule

/-- The placement that the greedy loop makes of a discussion, if it makes any. -/
def greedyPlacement (ledger : Ledger) (schedule : Schedule) (discussion : DiscussionId) :
    Option Placement := do
  let (index, _) ← schedule.bestAmong ledger discussion (schedule.openSlots ledger discussion)
  let slot ← schedule.slot? index
  return { discussion, index, delta := (slot.assign ledger discussion).2 }

/-- The placements that the greedy loop makes one after the other. -/
def greedyPlacements (ledger : Ledger) : List DiscussionId → Schedule → List Placement
  | [], _ => []
  | discussion :: rest, schedule =>
    (schedule.greedyPlacement ledger discussion).toList ++
      greedyPlacements ledger rest (schedule.placeGreedily ledger discussion)

end Schedule

def Snapshot.greedyPlacements (snapshot : Snapshot) : List Placement :=
  Schedule.greedyPlacements snapshot.ledger snapshot.byDemand snapshot.template

namespace Schedule

variable {schedule : Schedule} {ledger : Ledger} {discussion : DiscussionId}

/-- The discussions that placements put into a slot. -/
def placedAt (placements : List Placement) (index : Nat) : List DiscussionId :=
  (placements.filter (·.index = index)).map (·.discussion)

theorem greedyPlacement_cases (ledger : Ledger) (schedule : Schedule)
    (discussion : DiscussionId) :
    (schedule.greedyPlacement ledger discussion = none ∧
        schedule.placeGreedily ledger discussion = schedule) ∨
      ∃ index ∈ schedule.openSlots ledger discussion,
        0 < schedule.gainAt ledger discussion index ∧
          schedule.greedyPlacement ledger discussion =
            some { discussion, index, delta := schedule.gainAt ledger discussion index } ∧
          schedule.placeGreedily ledger discussion =
            schedule.assign ledger index discussion := by
  unfold greedyPlacement placeGreedily
  rw [bestAmong_eq]
  rcases changingOver_none_spec (schedule.gainAt ledger discussion)
      (schedule.openSlots ledger discussion) with
    ⟨hnone, _⟩ | ⟨index, hfound, hfirst⟩
  · rw [hnone]
    exact .inl ⟨rfl, rfl⟩
  · obtain ⟨slot, hslot⟩ := slot?_eq_some_of_lt (mem_openSlots_iff.1 hfirst.mem).1
    have hgain : schedule.gainAt ledger discussion index =
        (slot.assign ledger discussion).2 := by
      unfold gainAt
      rw [hslot, Slot.assign_snd]
    refine .inr ⟨index, hfirst.mem, hfirst.1, ?_, ?_⟩
    · rw [hfound, hgain]
      simp [hslot]
    · rw [hfound]

theorem delta_pos_of_mem_greedyPlacements {hand : List DiscussionId} {placement : Placement}
    (hmem : placement ∈ greedyPlacements ledger hand schedule) : 0 < placement.delta := by
  induction hand generalizing schedule with
  | nil => cases hmem
  | cons discussion rest ih =>
      rw [greedyPlacements] at hmem
      rcases List.mem_append.1 hmem with hnow | hlater
      · rcases greedyPlacement_cases ledger schedule discussion with
          ⟨hnone, _⟩ | ⟨index, _, hpos, hmade, _⟩
        · simp [hnone] at hnow
        · rw [hmade, Option.toList_some, List.mem_singleton] at hnow
          rw [hnow]
          exact hpos
      · exact ih hlater

/-- Every placement adds to the score what it said. -/
theorem score_foldl_placeGreedily
    (hledger : ledger.Coherent) (hfresh : schedule.Fresh ledger) (honce : schedule.ListsOpenOnce)
    (hand : List DiscussionId) :
    ((hand.foldl (placeGreedily ledger) schedule).totalScore ledger).score =
      (schedule.totalScore ledger).score +
        total ((greedyPlacements ledger hand schedule).map (·.delta)) := by
  induction hand generalizing schedule with
  | nil => rfl
  | cons discussion rest ih =>
      have hstep := (handling_placeGreedily ledger schedule discussion rest).fresh hledger hfresh
      rw [List.foldl_cons, ih hstep (honce.placeGreedily ledger discussion), greedyPlacements,
        List.map_append, total_append]
      rcases greedyPlacement_cases ledger schedule discussion with
        ⟨hnone, hplaced⟩ | ⟨index, hopen, _, hmade, hplaced⟩
      · rw [hnone, hplaced]
        simp
      · rw [hmade, hplaced, honce.score_assign hledger hfresh hopen]
        simp [Nat.add_assoc]

theorem discussionsAt_assign_of_gain_pos
    {index : Nat} (hpos : 0 < schedule.gainAt ledger discussion index) (other : Nat) :
    ((schedule.assign ledger index discussion).discussionsAt other).getD [] =
      (schedule.discussionsAt other).getD [] ++ if index = other then [discussion] else [] := by
  unfold Schedule.assign discussionsAt
  by_cases heq : index = other
  · subst other
    rw [slot?_modifySlot_self, if_pos rfl]
    unfold gainAt at hpos
    cases hslot : schedule.slot? index with
    | none => simp [hslot] at hpos
    | some slot =>
        have habsent : discussion ∉ slot.discussions := by
          intro hmem
          simp [hslot, Slot.gain, (slot.contains_iff discussion).2 hmem] at hpos
        simp [Slot.discussions_assign, habsent]
  · rw [slot?_modifySlot_of_ne _ heq, if_neg heq, List.append_nil]

/-- The slots end up with what they had and what was placed there, in that order. -/
theorem discussionsAt_foldl_placeGreedily
    (ledger : Ledger) (schedule : Schedule) (hand : List DiscussionId) (index : Nat) :
    ((hand.foldl (placeGreedily ledger) schedule).discussionsAt index).getD [] =
      (schedule.discussionsAt index).getD [] ++
        placedAt (greedyPlacements ledger hand schedule) index := by
  induction hand generalizing schedule with
  | nil => simp [greedyPlacements, placedAt]
  | cons discussion rest ih =>
      rw [List.foldl_cons, ih, greedyPlacements, placedAt, placedAt, List.filter_append,
        List.map_append, ← List.append_assoc]
      congr 1
      rcases greedyPlacement_cases ledger schedule discussion with
        ⟨hnone, hplaced⟩ | ⟨placed, _, hpos, hmade, hplaced⟩
      · rw [hnone, hplaced]
        simp
      · rw [hmade, hplaced, discussionsAt_assign_of_gain_pos hpos]
        by_cases heq : placed = index <;> simp [heq]

end Schedule

namespace Snapshot

theorem listsOpenOnce_template (snapshot : Snapshot) : snapshot.template.ListsOpenOnce := by
  intro index slot hopen hslot
  rw [slot?_template] at hslot
  split at hslot
  · obtain rfl := Option.some.inj hslot
    rw [startingSlot_of_open hopen]
    exact List.nodup_nil
  · cases hslot

theorem isLocked_greedy (snapshot : Snapshot) (index : Nat) :
    snapshot.greedy.isLocked index = snapshot.locked.contains index :=
  congrArg (·.contains index) (Schedule.growsTo_foldl_placeGreedily snapshot.ledger
    snapshot.template snapshot.byDemand).locked

/-- What the greedy schedule lists in no open slot adds nothing to it. -/
theorem gainAt_greedy_eq_zero
    {snapshot : Snapshot} (hledger : snapshot.ledger.Coherent) {discussion : DiscussionId}
    (hworklist : discussion ∈ snapshot.worklist)
    (hleft : ∀ index slot, snapshot.locked.contains index = false →
      snapshot.greedy.slot? index = some slot → discussion ∉ slot.discussions)
    {index : Nat} (hopen : index ∈ snapshot.greedy.openSlots snapshot.ledger discussion) :
    snapshot.greedy.gainAt snapshot.ledger discussion index = 0 := by
  have hhand : discussion ∈ snapshot.byDemand :=
    (List.mergeSort_perm snapshot.worklist _).mem_iff.2 hworklist
  rcases Schedule.listsOpenly_or_addsNothing_foldl hledger (fresh_template hledger) hhand with
    ⟨other, hother, hlisted⟩ | hnothing
  · obtain ⟨slot, hslot, hmem⟩ := Schedule.mem_discussionsAt_iff.1 hlisted
    have hunlocked := (snapshot.isLocked_greedy other).symm.trans hother
    exact absurd hmem (hleft other slot hunlocked hslot)
  · exact hnothing.gainAt_eq_zero hopen

theorem discussions_greedy_of_open
    {snapshot : Snapshot} {index : Nat} {slot : Slot}
    (hunlocked : snapshot.locked.contains index = false)
    (hslot : snapshot.greedy.slot? index = some slot) :
    slot.discussions = Schedule.placedAt snapshot.greedyPlacements index := by
  have hlisted : (snapshot.greedy.discussionsAt index).getD [] = _ :=
    Schedule.discussionsAt_foldl_placeGreedily snapshot.ledger snapshot.template
      snapshot.byDemand index
  have hempty : (snapshot.template.discussionsAt index).getD [] = [] := by
    unfold Schedule.discussionsAt
    rw [slot?_template, startingSlot_of_open hunlocked]
    split <;> rfl
  rw [hempty, List.nil_append, Schedule.discussionsAt, hslot] at hlisted
  exact hlisted

/-- A discussion of the work list that the greedy schedule leaves out would add nothing in any of
the slots it may take, as they are in the end.  The greedy schedule scores what the template scores
and what the placements added, each of them something. -/
theorem greedy_leaves_nothing_useful_out
    {snapshot : Snapshot} (hledger : snapshot.ledger.Reachable) :
    (∀ discussion ∈ snapshot.worklist,
      (∀ index slot, snapshot.locked.contains index = false →
        snapshot.greedy.slot? index = some slot → discussion ∉ slot.discussions) →
      ∀ index slot, snapshot.locked.contains index = false →
        snapshot.ledger.isSlotPermitted discussion index = true →
        snapshot.greedy.slot? index = some slot →
          slot.gain snapshot.ledger discussion = 0 ∧
          ∀ validation, ∃ score raised,
            snapshot.greedy.score snapshot.ledger validation = .ok (snapshot.greedy, score) ∧
            (snapshot.greedy.assign snapshot.ledger index discussion).score snapshot.ledger
                validation =
              .ok (snapshot.greedy.assign snapshot.ledger index discussion, raised) ∧
            raised.score = score.score) ∧
    (∀ placement ∈ snapshot.greedyPlacements, 0 < placement.delta) ∧
    (∀ index slot, snapshot.locked.contains index = false →
      snapshot.greedy.slot? index = some slot →
        slot.discussions = Schedule.placedAt snapshot.greedyPlacements index) ∧
    ∀ validation, ∃ start score,
      snapshot.template.score snapshot.ledger validation = .ok (snapshot.template, start) ∧
      snapshot.greedy.score snapshot.ledger validation = .ok (snapshot.greedy, score) ∧
      score.score = start.score + total (snapshot.greedyPlacements.map (·.delta)) := by
  have hcoherent := hledger.coherent
  have htemplate := fresh_template hcoherent
  have hgreedy := (snapshot.builds_greedy.fits hcoherent).fresh
  have honce : snapshot.greedy.ListsOpenOnce :=
    snapshot.listsOpenOnce_template.foldl_placeGreedily _ _
  refine ⟨?_, fun _ => Schedule.delta_pos_of_mem_greedyPlacements,
    fun _ _ => discussions_greedy_of_open, ?_⟩
  · intro discussion hworklist hleft index slot hunlocked hpermitted hslot
    have hopen : index ∈ snapshot.greedy.openSlots snapshot.ledger discussion :=
      Schedule.mem_openSlots_iff.2 ⟨Schedule.lt_size_of_slot? hslot,
        (snapshot.isLocked_greedy index).trans hunlocked, hpermitted⟩
    have hgain := gainAt_greedy_eq_zero hcoherent hworklist hleft hopen
    refine ⟨by simpa [Schedule.gainAt, hslot] using hgain, fun validation => ?_⟩
    refine ⟨_, _, hgreedy.score hcoherent validation,
      (hgreedy.assign hcoherent index discussion).score hcoherent validation, ?_⟩
    rw [honce.score_assign hcoherent hgreedy hopen, hgain, Nat.add_zero]
  · intro validation
    refine ⟨_, _, htemplate.score hcoherent validation, hgreedy.score hcoherent validation, ?_⟩
    exact Schedule.score_foldl_placeGreedily hcoherent htemplate snapshot.listsOpenOnce_template _

/-- The second talk may only take the slot that the first one, liked as much, was given. -/
theorem greedy_leaves_second_talk_out_of_contested :
    contested.ledger.Reachable ∧ (⟨1⟩ : DiscussionId) ∈ contested.worklist ∧
      (∀ index slot, contested.locked.contains index = false →
        contested.greedy.slot? index = some slot → ⟨1⟩ ∉ slot.discussions) ∧
      (∃ slot, contested.greedy.slot? 0 = some slot ∧ slot.discussions = [⟨0⟩] ∧
        slot.gain contested.ledger ⟨1⟩ = 0) ∧
      contested.greedyPlacements = [{ discussion := ⟨0⟩, index := 0, delta := 50 }] ∧
      ∃ start score,
        contested.template.score contested.ledger .strict = .ok (contested.template, start) ∧
        contested.greedy.score contested.ledger .strict = .ok (contested.greedy, score) ∧
        score.score = start.score + 50 := by
  have hledger : contested.ledger.Reachable := contestedLedger_reachable
  obtain ⟨hleft, _, hlisted, hscore⟩ := greedy_leaves_nothing_useful_out hledger
  have horder : contested.byDemand = [⟨0⟩, ⟨1⟩] := List.mergeSort_of_pairwise (by decide)
  have hplacements : contested.greedyPlacements =
      [{ discussion := ⟨0⟩, index := 0, delta := 50 }] := by
    unfold greedyPlacements
    rw [horder]
    decide
  have habsent : ∀ index slot, contested.locked.contains index = false →
      contested.greedy.slot? index = some slot → ⟨1⟩ ∉ slot.discussions := by
    intro index slot hopen hslot
    rw [hlisted index slot hopen hslot, hplacements]
    by_cases hfirst : 0 = index
    · subst index
      decide
    · simp [Schedule.placedAt, hfirst]
  have hslot : contested.greedy.slot? 0 =
      some ((∅ : Slot).assign contestedLedger ⟨0⟩).1 := by
    unfold greedy
    rw [horder]
    decide
  refine ⟨hledger, by decide, habsent, ⟨_, hslot, by decide, ?_⟩, hplacements, ?_⟩
  · exact (hleft ⟨1⟩ (by decide) habsent 0 _ (by decide) (by decide) hslot).1
  · obtain ⟨start, score, hstart, hgreedy, hsum⟩ := hscore .strict
    refine ⟨start, score, hstart, hgreedy, ?_⟩
    rw [hsum, hplacements]
    rfl

end Snapshot

end Unconference
