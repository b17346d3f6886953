import Unconference.Proofs.Search.Outcome

/-!
# The greedy schedule against all others

A feasible arrangement says for every slot which discussions it is to hold, under the constraints
that searches have.  None is worth more than twice the greedy schedule.

The proof compares the schedule while it grows with one that holds, besides, what the arrangement
plans among the discussions still in hand.  What this potential loses when a discussion leaves the
hand is at most what it would add in the one slot it is planned for, which is no more than what the
greedy loop gains by placing it.  So potential and worth together never shrink.
-/

namespace Unconference

theorem total_map_eq_total_range
    {α : Type} (elements : List α) (default : α) (amount : α → Nat) :
    total (elements.map amount) =
      total ((List.range elements.length).map fun index =>
        amount (elements[index]?.getD default)) := by
  congr 1
  apply List.ext_getElem
  · simp
  · intro index hlt _
    have hindex : index < elements.length := by simpa using hlt
    simp [hindex]

/-- At most one of the terms counts. -/
theorem total_map_ite_le
    {α : Type} {elements : List α} (hnodup : elements.Nodup) {counts : α → Prop}
    [DecidablePred counts]
    (honce : ∀ element other, counts element → counts other → element = other) (bound : Nat) :
    total (elements.map fun element => if counts element then bound else 0) ≤ bound := by
  induction elements with
  | nil => exact Nat.zero_le _
  | cons element rest ih =>
      obtain ⟨habsent, hrest⟩ := List.nodup_cons.1 hnodup
      rw [List.map_cons, total_cons]
      by_cases hcounts : counts element
      · have hothers : ∀ other ∈ rest, ¬ counts other := by
          intro other hmem hother
          exact habsent (honce element other hcounts hother ▸ hmem)
        have hzero : (rest.map fun other => if counts other then bound else 0) =
            rest.map fun _ => 0 := by
          apply List.map_congr_left
          intro other hmem
          exact if_neg (hothers other hmem)
        rw [hzero, total_map_zero]
        simp [hcounts]
      · simpa [hcounts] using ih hrest

/-- What an arrangement plans for a slot. -/
def plannedAt (arrangement : List (List DiscussionId)) (index : Nat) : List DiscussionId :=
  arrangement[index]?.getD []

/-- The total over all slots and users of the most points that the user gives to any of the
discussions planned for the slot. -/
def Ledger.arrangementWorth (ledger : Ledger) (arrangement : List (List DiscussionId)) : Nat :=
  total (arrangement.map ledger.worth)

namespace Snapshot

/-- The arrangement has the slots of the snapshot.  In a locked slot it plans what the template
holds there; in the others it plans discussions of the work list, each in one slot at most and only
where it is permitted. -/
structure Feasible (snapshot : Snapshot) (arrangement : List (List DiscussionId)) : Prop where
  length : arrangement.length = snapshot.slotCount
  locked : ∀ index, snapshot.locked.contains index = true →
    ∀ discussion, discussion ∈ plannedAt arrangement index ↔
      discussion ∈ (snapshot.template.discussionsAt index).getD []
  permitted : ∀ index, snapshot.locked.contains index = false →
    ∀ discussion ∈ plannedAt arrangement index,
      discussion ∈ snapshot.worklist ∧ snapshot.ledger.isSlotPermitted discussion index = true
  once : ∀ discussion index other,
    snapshot.locked.contains index = false → snapshot.locked.contains other = false →
      discussion ∈ plannedAt arrangement index → discussion ∈ plannedAt arrangement other →
        index = other

/-- What an arrangement plans for a slot that is not locked. -/
def openPlan (snapshot : Snapshot) (arrangement : List (List DiscussionId)) (index : Nat) :
    List DiscussionId :=
  if snapshot.locked.contains index then [] else plannedAt arrangement index

/-- What a slot holds, together with what is planned there and still in hand. -/
def joined (snapshot : Snapshot) (arrangement : List (List DiscussionId)) (schedule : Schedule)
    (hand : List DiscussionId) (index : Nat) : List DiscussionId :=
  (schedule.discussionsAt index).getD [] ++
    (snapshot.openPlan arrangement index).filter (hand.contains ·)

def potential (snapshot : Snapshot) (arrangement : List (List DiscussionId))
    (schedule : Schedule) (hand : List DiscussionId) : Nat :=
  total ((List.range snapshot.slotCount).map fun index =>
    snapshot.ledger.worth (snapshot.joined arrangement schedule hand index))

section

variable {snapshot : Snapshot} {arrangement : List (List DiscussionId)} {schedule : Schedule}
  {hand : List DiscussionId} {discussion : DiscussionId} {index : Nat}

theorem mem_openPlan_iff :
    discussion ∈ snapshot.openPlan arrangement index ↔
      snapshot.locked.contains index = false ∧ discussion ∈ plannedAt arrangement index := by
  unfold openPlan
  cases hlocked : snapshot.locked.contains index <;> simp

theorem mem_joined_iff :
    discussion ∈ snapshot.joined arrangement schedule hand index ↔
      discussion ∈ (schedule.discussionsAt index).getD [] ∨
        discussion ∈ snapshot.openPlan arrangement index ∧ discussion ∈ hand := by
  simp [joined]

theorem Feasible.lt_slotCount
    (hfeasible : snapshot.Feasible arrangement)
    (hplanned : discussion ∈ plannedAt arrangement index) : index < snapshot.slotCount := by
  rw [← hfeasible.length]
  by_contra hpast
  have hnothing : plannedAt arrangement index = [] := by
    unfold plannedAt
    rw [List.getElem?_eq_none (by omega)]
    rfl
  rw [hnothing] at hplanned
  cases hplanned

theorem Feasible.mem_openSlots
    (hfeasible : snapshot.Feasible arrangement) {after : List DiscussionId}
    (hfits : schedule.Fits snapshot after)
    (hplanned : discussion ∈ snapshot.openPlan arrangement index) :
    index ∈ schedule.openSlots snapshot.ledger discussion := by
  obtain ⟨hopen, hplanned⟩ := mem_openPlan_iff.1 hplanned
  have hlt := hfeasible.lt_slotCount hplanned
  have hpermitted := (hfeasible.permitted index hopen discussion hplanned).2
  rw [Schedule.mem_openSlots_iff, hfits.size, hfits.isLocked]
  exact ⟨hlt, hopen, hpermitted⟩

/-! ## The potential at both ends -/

theorem worth_eq_total_range (schedule : Schedule) (ledger : Ledger) :
    schedule.worth ledger =
      total ((List.range schedule.size).map fun index =>
        ledger.worth ((schedule.discussionsAt index).getD [])) := by
  have hslots := total_map_eq_total_range schedule.slots ∅ fun slot =>
    ledger.worth slot.discussions
  unfold Schedule.worth
  rw [hslots]
  congr 1
  apply List.map_congr_left
  intro index _
  unfold Schedule.discussionsAt Schedule.slot?
  cases schedule.slots[index]? <;> rfl

theorem potential_nil
    (hfits : schedule.Fits snapshot hand) :
    snapshot.potential arrangement schedule [] = schedule.worth snapshot.ledger := by
  rw [worth_eq_total_range, hfits.size]
  simp [potential, joined]

/-- At first the potential is not less than what the arrangement is worth. -/
theorem Feasible.arrangementWorth_le_potential
    (hfeasible : snapshot.Feasible arrangement) (hhand : snapshot.worklist ⊆ hand) :
    snapshot.ledger.arrangementWorth arrangement ≤
      snapshot.potential arrangement snapshot.template hand := by
  unfold Ledger.arrangementWorth potential
  rw [total_map_eq_total_range arrangement [], hfeasible.length]
  apply total_map_le_total_map
  intro index _
  apply Ledger.worth_mono
  intro discussion hplanned
  rw [mem_joined_iff, mem_openPlan_iff]
  cases hlocked : snapshot.locked.contains index with
  | true => exact .inl ((hfeasible.locked index hlocked discussion).1 hplanned)
  | false =>
      have hworklist := (hfeasible.permitted index hlocked discussion hplanned).1
      exact .inr ⟨⟨rfl, hplanned⟩, hhand hworklist⟩

/-! ## The potential along the greedy loop -/

/-- A discussion that leaves the hand is missed in the slot it is planned for, and nowhere else. -/
theorem worth_joined_cons_le
    (hfeasible : snapshot.Feasible arrangement) (hledger : snapshot.ledger.Coherent)
    {after : List DiscussionId} (hfits : schedule.Fits snapshot after)
    (discussion : DiscussionId) (hand : List DiscussionId) (index : Nat) :
    snapshot.ledger.worth (snapshot.joined arrangement schedule (discussion :: hand) index) ≤
      snapshot.ledger.worth (snapshot.joined arrangement schedule hand index) +
        if discussion ∈ snapshot.openPlan arrangement index then
          schedule.bestGain snapshot.ledger discussion
        else 0 := by
  by_cases hplanned : discussion ∈ snapshot.openPlan arrangement index
  · have hopen := hfeasible.mem_openSlots hfits hplanned
    have hlt := (Schedule.mem_openSlots_iff.1 hopen).1
    have hheld : (schedule.discussionsAt index).getD [] ⊆
        snapshot.joined arrangement schedule hand index := by
      intro other hother
      exact mem_joined_iff.2 (.inl hother)
    have hsubset : snapshot.joined arrangement schedule (discussion :: hand) index ⊆
        snapshot.joined arrangement schedule hand index ++ [discussion] := by
      intro other hother
      rw [List.mem_append, List.mem_singleton, mem_joined_iff]
      rcases mem_joined_iff.1 hother with hother | ⟨hother, hhand⟩
      · exact .inl (.inl hother)
      · rcases List.mem_cons.1 hhand with heq | hhand
        · exact .inr heq
        · exact .inl (.inr ⟨hother, hhand⟩)
    rw [if_pos hplanned]
    calc
      snapshot.ledger.worth (snapshot.joined arrangement schedule (discussion :: hand) index)
          ≤ snapshot.ledger.worth
              (snapshot.joined arrangement schedule hand index ++ [discussion]) :=
        Ledger.worth_mono hsubset
      _ = snapshot.ledger.worth (snapshot.joined arrangement schedule hand index) +
            snapshot.ledger.addedWorth (snapshot.joined arrangement schedule hand index)
              discussion :=
        Ledger.worth_append_singleton _ _ _
      _ ≤ snapshot.ledger.worth (snapshot.joined arrangement schedule hand index) +
            snapshot.ledger.addedWorth ((schedule.discussionsAt index).getD []) discussion :=
        Nat.add_le_add_left (Ledger.addedWorth_anti hheld discussion) _
      _ = snapshot.ledger.worth (snapshot.joined arrangement schedule hand index) +
            schedule.gainAt snapshot.ledger discussion index := by
        rw [hfits.fresh.gainAt_eq hledger hlt]
      _ ≤ _ := Nat.add_le_add_left (le_most hopen) _
  · rw [if_neg hplanned, Nat.add_zero]
    apply Ledger.worth_mono
    intro other hother
    rw [mem_joined_iff]
    rcases mem_joined_iff.1 hother with hheld | ⟨hotherPlanned, hhand⟩
    · exact .inl hheld
    · rcases List.mem_cons.1 hhand with rfl | hhand
      · exact absurd hotherPlanned hplanned
      · exact .inr ⟨hotherPlanned, hhand⟩

theorem potential_cons_le
    (hfeasible : snapshot.Feasible arrangement) (hledger : snapshot.ledger.Coherent)
    {after : List DiscussionId} (hfits : schedule.Fits snapshot after)
    (discussion : DiscussionId) (hand : List DiscussionId) :
    snapshot.potential arrangement schedule (discussion :: hand) ≤
      snapshot.potential arrangement schedule hand +
        schedule.bestGain snapshot.ledger discussion := by
  have honce : ∀ index other, discussion ∈ snapshot.openPlan arrangement index →
      discussion ∈ snapshot.openPlan arrangement other → index = other := by
    intro index other hplanned hother
    obtain ⟨hopen, hplanned⟩ := mem_openPlan_iff.1 hplanned
    obtain ⟨hotherOpen, hother⟩ := mem_openPlan_iff.1 hother
    exact hfeasible.once discussion index other hopen hotherOpen hplanned hother
  have hslots := total_map_le_total_map fun index (_ : index ∈ List.range snapshot.slotCount) =>
    worth_joined_cons_le hfeasible hledger hfits discussion hand index
  rw [total_map_add] at hslots
  have hmissed := total_map_ite_le (List.nodup_range (n := snapshot.slotCount)) honce
    (schedule.bestGain snapshot.ledger discussion)
  unfold potential
  omega

theorem subset_discussionsAt_assign
    (ledger : Ledger) (schedule : Schedule) (index : Nat) (discussion : DiscussionId)
    (other : Nat) :
    (schedule.discussionsAt other).getD [] ⊆
      ((schedule.assign ledger index discussion).discussionsAt other).getD [] := by
  unfold Schedule.assign Schedule.discussionsAt
  by_cases heq : index = other
  · subst other
    rw [Schedule.slot?_modifySlot_self]
    cases schedule.slot? index with
    | none => exact fun _ hmem => hmem
    | some slot =>
        intro listed hlisted
        simp only [Option.map_some, Option.getD_some] at hlisted ⊢
        exact Slot.mem_discussions_assign_iff.2 (.inl hlisted)
  · rw [Schedule.slot?_modifySlot_of_ne _ heq]
    exact fun _ hmem => hmem

theorem potential_le_potential_placeGreedily
    (snapshot : Snapshot) (arrangement : List (List DiscussionId)) (schedule : Schedule)
    (hand : List DiscussionId) (discussion : DiscussionId) :
    snapshot.potential arrangement schedule hand ≤
      snapshot.potential arrangement (schedule.placeGreedily snapshot.ledger discussion)
        hand := by
  rcases Schedule.placeGreedily_cases snapshot.ledger schedule discussion with
    ⟨_, hplaced⟩ | ⟨index, _, hplaced⟩
  · rw [hplaced]
  · rw [hplaced]
    apply total_map_le_total_map
    intro other _
    apply Ledger.worth_mono
    intro listed hlisted
    rw [mem_joined_iff] at hlisted ⊢
    exact hlisted.imp_left
      (subset_discussionsAt_assign snapshot.ledger schedule index discussion other ·)

theorem worth_placeGreedily
    (hledger : snapshot.ledger.Coherent) (hfresh : schedule.Fresh snapshot.ledger)
    (discussion : DiscussionId) :
    (schedule.placeGreedily snapshot.ledger discussion).worth snapshot.ledger =
      schedule.worth snapshot.ledger + schedule.bestGain snapshot.ledger discussion := by
  rcases Schedule.placeGreedily_cases snapshot.ledger schedule discussion with
    ⟨hnothing, hplaced⟩ | ⟨index, hfirst, hplaced⟩
  · have hmost : schedule.bestGain snapshot.ledger discussion = 0 := hnothing
    rw [hplaced, hmost, Nat.add_zero]
  · have hlt := (Schedule.mem_openSlots_iff.1 hfirst.mem).1
    have hmost : schedule.gainAt snapshot.ledger discussion index =
        schedule.bestGain snapshot.ledger discussion := hfirst.points_eq_most
    rw [hplaced, hfresh.worth_assign hledger hlt, hmost]

/-- Potential and worth together never shrink while the greedy loop runs. -/
theorem potential_add_worth_le
    (hfeasible : snapshot.Feasible arrangement) (hledger : snapshot.ledger.Coherent)
    (hfits : schedule.Fits snapshot hand) :
    snapshot.potential arrangement schedule hand + schedule.worth snapshot.ledger ≤
      2 * (hand.foldl (Schedule.placeGreedily snapshot.ledger) schedule).worth
        snapshot.ledger := by
  induction hand generalizing schedule with
  | nil =>
      rw [potential_nil hfits, List.foldl_nil]
      omega
  | cons discussion rest ih =>
      have hhandling :=
        Schedule.handling_placeGreedily snapshot.ledger schedule discussion rest
      have hrest := ih (hhandling.fits hledger hfits)
      have hleaves := potential_cons_le hfeasible hledger hfits discussion rest
      have hgrows := potential_le_potential_placeGreedily snapshot arrangement schedule rest
        discussion
      have hgains := worth_placeGreedily hledger hfits.fresh discussion
      rw [List.foldl_cons]
      omega

end

theorem Feasible.arrangementWorth_le_greedyScore
    {snapshot : Snapshot} {arrangement : List (List DiscussionId)}
    (hfeasible : snapshot.Feasible arrangement) (hledger : snapshot.ledger.Coherent) :
    snapshot.ledger.arrangementWorth arrangement ≤ 2 * snapshot.greedyScore := by
  have hperm : snapshot.byDemand.Perm snapshot.worklist := List.mergeSort_perm _ _
  have hfits := Schedule.fits_template hledger hperm.subset
  have hstart := hfeasible.arrangementWorth_le_potential hperm.symm.subset
  have hloop := potential_add_worth_le hfeasible hledger hfits
  have hfresh := (snapshot.builds_greedy.fits hledger).fresh
  have hscore := hfresh.worth_le_score_totalScore hledger
  have hgreedy : (snapshot.byDemand.foldl (Schedule.placeGreedily snapshot.ledger)
      snapshot.template).worth snapshot.ledger ≤ snapshot.greedyScore := hscore
  omega

/-- No feasible arrangement is worth more than twice the score of the greedy schedule, or than twice
the score that any search answers which looks at the greedy schedule. -/
theorem greedy_is_half_as_good_as_any
    {snapshot : Snapshot} (hledger : snapshot.ledger.Reachable)
    {arrangement : List (List DiscussionId)} (hfeasible : snapshot.Feasible arrangement) :
    (∀ validation, ∃ score,
      snapshot.greedy.score snapshot.ledger validation = .ok (snapshot.greedy, score) ∧
        snapshot.ledger.arrangementWorth arrangement ≤ 2 * score.score) ∧
    ∀ {σ : Type} [RandomSource σ] (options : SearchOptions) (clock : Clock) (source : σ)
      (outcome : SearchOutcome),
      options.algorithm = .heuristic ∨ options.algorithm = .combined ∨
          options.algorithm = .climb →
        snapshot.search options clock source = .ok outcome →
          snapshot.ledger.arrangementWorth arrangement ≤ 2 * outcome.score.score := by
  have hcoherent := hledger.coherent
  have hworth := hfeasible.arrangementWorth_le_greedyScore hcoherent
  constructor
  · intro validation
    have hfresh := (snapshot.builds_greedy.fits hcoherent).fresh
    exact ⟨_, hfresh.score hcoherent validation, hworth⟩
  · intro σ _ options clock source outcome halgorithm hsearch
    have hgreedy : options.algorithm ≠ .random := by
      rcases halgorithm with heq | heq | heq <;> simp [heq]
    have hscore := (finds_of_search_eq_ok hcoherent hsearch).greedy hgreedy
    omega

/-- One user who likes two discussions equally, the second of which may only take the first slot. -/
def contestedLedger : Ledger :=
  (((((∅ : Ledger).addUser "ada").2.addDiscussion ⟨0⟩ "compilers" true 2).2.addDiscussion
    ⟨0⟩ "databases" true 1).2.setInterest ⟨0⟩ ⟨0⟩ 50).2.setInterest ⟨0⟩ ⟨1⟩ 50 |>.2

theorem contestedLedger_reachable : contestedLedger.Reachable :=
  .setInterest _ _ _ (.setInterest _ _ _
    (.addDiscussion _ _ _ _ (.addDiscussion _ _ _ _ (.addUser _ .empty))))

def contested : Snapshot where
  ledger := contestedLedger
  locked := ∅
  slotCount := 2
  prior := none
  worklist := [⟨0⟩, ⟨1⟩]
  validation := .strict

theorem feasible_contested : contested.Feasible [[⟨1⟩], [⟨0⟩]] := by
  constructor
  · rfl
  · intro index hlocked
    simp [contested] at hlocked
  · intro index _
    match index with
    | 0 => decide
    | 1 => decide
    | index + 2 => simp [plannedAt]
  · intro discussion index other _ _ hplanned hother
    match index, other with
    | 0, 0 => rfl
    | 1, 1 => rfl
    | 0, 1 =>
        obtain rfl := List.mem_singleton.1 hplanned
        simp [plannedAt] at hother
    | 1, 0 =>
        obtain rfl := List.mem_singleton.1 hplanned
        simp [plannedAt] at hother
    | index + 2, _ => simp [plannedAt] at hplanned
    | _, other + 2 => simp [plannedAt] at hother

/-- The bound is reached: the greedy loop gives the first slot to the discussion that could have
gone elsewhere. -/
theorem greedy_is_half_as_good_as_contested_arrangement :
    contested.ledger.Reachable ∧ contested.Feasible [[⟨1⟩], [⟨0⟩]] ∧
      contested.ledger.arrangementWorth [[⟨1⟩], [⟨0⟩]] = 100 ∧
      (∃ score,
        contested.greedy.score contested.ledger .strict = .ok (contested.greedy, score) ∧
          score.score = 50 ∧
            contested.ledger.arrangementWorth [[⟨1⟩], [⟨0⟩]] ≤ 2 * score.score) ∧
      ∃ outcome,
        contested.search { algorithm := .combined } ⟨1, by decide⟩ (⟨[3, 1, 4]⟩ : WordList) =
            .ok outcome ∧
          contested.ledger.arrangementWorth [[⟨1⟩], [⟨0⟩]] ≤ 2 * outcome.score.score := by
  have hall := greedy_is_half_as_good_as_any contestedLedger_reachable feasible_contested
  have hcoherent : contested.ledger.Coherent := contestedLedger_reachable.coherent
  have horder : contested.byDemand = [⟨0⟩, ⟨1⟩] := List.mergeSort_of_pairwise (by decide)
  have hgreedy : contested.greedy.score contested.ledger .strict =
      .ok (contested.greedy, ⟨50, 0⟩) := by
    unfold greedy
    rw [horder]
    decide
  refine ⟨contestedLedger_reachable, feasible_contested, by decide, ?_, ?_⟩
  · obtain ⟨score, hscore, hworth⟩ := hall.1 .strict
    have hfifty : score = ⟨50, 0⟩ := by
      rw [hgreedy] at hscore
      exact (Prod.mk.inj (Except.ok.inj hscore)).2.symm
    exact ⟨score, hscore, by rw [hfifty], hworth⟩
  · have hanswers := search_answers hcoherent (by decide)
      { algorithm := .combined } ⟨1, by decide⟩ (⟨[3, 1, 4]⟩ : WordList)
    obtain ⟨outcome, hsearch⟩ := hanswers.exists_ok (WordList.drawsReturn _)
    exact ⟨outcome, hsearch, hall.2 _ _ _ outcome (.inr (.inl rfl)) hsearch⟩

end Snapshot

end Unconference
