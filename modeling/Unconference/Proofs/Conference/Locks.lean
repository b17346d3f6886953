import Unconference.Proofs.Conference.Live
import Mathlib.Logic.Relation

/-!
# Locked slots

A commit leaves every slot alone that is locked at that moment.  For those that were locked in the
snapshot already it is the search that kept them, which began with what the schedule committed
before has there; for those locked since it is the commit that looks.  So as long as a slot stays
locked, its discussions stay the same.
-/

namespace Unconference

open Conference

/-- A search keeps what the prior schedule lists in the locked slots. -/
theorem Schedule.Fits.listedAt_eq
    {snapshot : Snapshot} {schedule : Schedule} {hand : List DiscussionId}
    (hfits : schedule.Fits snapshot hand)
    (hprior : ∀ earlier, snapshot.prior = some earlier → earlier.size ≤ snapshot.slotCount)
    {index : Nat} (hlocked : snapshot.locked.contains index = true) :
    listedAt (some schedule) index = listedAt snapshot.prior index := by
  have hkept : schedule.discussionsAt index = snapshot.template.discussionsAt index := by
    unfold Schedule.discussionsAt
    rw [hfits.kept index hlocked]
  have hlisted : listedAt (some schedule) index =
      (snapshot.template.discussionsAt index).getD [] := by
    rw [← hkept]
    rfl
  rw [hlisted]
  by_cases hlt : index < snapshot.slotCount
  · rw [Snapshot.discussionsAt_template hlocked hlt]
    rfl
  · -- neither of the two has such a slot
    have htemplate : snapshot.template.discussionsAt index = none := by
      unfold Schedule.discussionsAt
      rw [Snapshot.slot?_template, if_neg hlt]
      rfl
    rw [htemplate]
    cases hschedule : snapshot.prior with
    | none => rfl
    | some earlier =>
        have hsize := hprior earlier hschedule
        have hpast : earlier.slots.length ≤ index := by
          unfold Schedule.size at hsize
          omega
        simp [listedAt, Schedule.discussionsAt, Schedule.slot?, List.getElem?_eq_none hpast]

namespace Live

variable {live later : Live} {snapshot : Snapshot} {σ : Type} [RandomSource σ]
  {options : SearchOptions} {clock : Clock} {source : σ} {outcome : SearchOutcome}

theorem Good.listedAt_outcome
    (hgood : live.Good) (hmem : snapshot ∈ live.inFlight)
    (hsearch : snapshot.search options clock source = .ok outcome) {index : Nat}
    (hlocked : snapshot.locked.contains index = true) :
    listedAt (some outcome.schedule) index = listedAt live.conference.schedule index := by
  have hcurrent := hgood.current snapshot hmem
  have hfits := (hgood.builds hmem hsearch).fits hcurrent.ledger.coherent
  have hprior : ∀ earlier, snapshot.prior = some earlier → earlier.size ≤ snapshot.slotCount := by
    intro earlier hearlier
    rw [hcurrent.prior] at hearlier
    rw [hgood.size earlier hearlier, hcurrent.slotCount]
  rw [hfits.listedAt_eq hprior hlocked, hcurrent.prior]

theorem Good.listedAt_commit
    (hgood : live.Good) (hmem : snapshot ∈ live.inFlight)
    (hsearch : snapshot.search options clock source = .ok outcome) {after : Conference}
    (hcommit : live.conference.commit outcome.schedule = (.ok (), after)) :
    after.schedule = some outcome.schedule ∧
      ∀ index, live.conference.locked.contains index = true →
        listedAt after.schedule index = listedAt live.conference.schedule index := by
  obtain ⟨hunchanged, rfl⟩ := Conference.commit_eq_ok hcommit
  refine ⟨rfl, ?_⟩
  intro index hlocked
  have hfits := (hgood.builds hmem hsearch).fits (hgood.current snapshot hmem).ledger.coherent
  cases hsnapshot : outcome.schedule.isLocked index with
  | false => exact lockedSinceSnapshot_eq_none hunchanged hlocked hsnapshot
  | true =>
      rw [hfits.isLocked] at hsnapshot
      exact hgood.listedAt_outcome hmem hsearch hsnapshot

theorem Step.listedAt_eq
    (hstep : Step live later) (hgood : live.Good) {index : Nat}
    (hlocked : live.conference.locked.contains index = true) :
    listedAt later.conference.schedule index = listedAt live.conference.schedule index := by
  cases hstep with
  | mutate mutation => rw [Conference.schedule_mutated]
  | start hstart =>
      obtain ⟨_, _, rfl⟩ := Conference.startSearch_eq_ok hstart
      rfl
  | refuse hstart => rw [Conference.startSearch_eq_error hstart]
  | @commit snapshot σ _ options clock source outcome hmem hsearch =>
      cases hcommit : live.conference.commit outcome.schedule with
      | mk answer after =>
          cases answer with
          | error refusal =>
              obtain ⟨rfl, _⟩ := Conference.commit_eq_error hcommit
              rfl
          | ok => exact (hgood.listedAt_commit hmem hsearch hcommit).2 index hlocked
  | abort hmem => rfl

/-- A run of steps in which a slot stays locked until the last. -/
def WhileLocked (index : Nat) : Live → Live → Prop :=
  Relation.ReflTransGen fun before after =>
    before.conference.locked.contains index = true ∧ Step before after

theorem Reachable.whileLocked
    {index : Nat} (hrun : WhileLocked index live later) (hreach : live.Reachable) :
    later.Reachable ∧
      listedAt later.conference.schedule index = listedAt live.conference.schedule index := by
  induction hrun with
  | refl => exact ⟨hreach, rfl⟩
  | tail _ hlast ih =>
      obtain ⟨hbefore, hsame⟩ := ih
      obtain ⟨hlocked, hstep⟩ := hlast
      exact ⟨.step hbefore hstep, (hstep.listedAt_eq hbefore.good hlocked).trans hsame⟩

/-- Whatever happened before, a search that is committed leaves the locked slots as they were, and
so do all steps for as long as a slot stays locked. -/
theorem locked_slots_are_never_overwritten {live : Live} (hreach : live.Reachable) :
    (∀ snapshot ∈ live.inFlight, ∀ {σ : Type} [RandomSource σ] (options : SearchOptions)
        (clock : Clock) (source : σ) (outcome : SearchOutcome) (after : Conference),
      snapshot.search options clock source = .ok outcome →
      live.conference.commit outcome.schedule = (.ok (), after) →
        after.schedule = some outcome.schedule ∧
          ∀ index, live.conference.locked.contains index = true →
            listedAt after.schedule index = listedAt live.conference.schedule index) ∧
    ∀ index later, WhileLocked index live later →
      listedAt later.conference.schedule index = listedAt live.conference.schedule index := by
  constructor
  · intro snapshot hmem σ _ options clock source outcome after hsearch hcommit
    exact hreach.good.listedAt_commit hmem hsearch hcommit
  · intro index later hrun
    exact (hreach.whileLocked hrun).2

/-! ## A morning with two slots -/

def morning : Timetable where
  days := [{ name := "Friday", slots := [{ time := "10:00" }, { time := "11:00" }] }]
  locations := [{ name := "Hall" }, { name := "Garden", isPlace := false }]

def oneTalk : Conference :=
  (((Conference.new morning).mutated (.addUser "ada")).mutated
    (.addDiscussion ⟨0⟩ "compilers" true)).mutated (.setInterest ⟨0⟩ ⟨0⟩ 50)

def oneTalkSnapshot : Snapshot where
  ledger := oneTalk.ledger
  locked := ∅
  slotCount := 2
  prior := none
  worklist := [⟨0⟩]
  validation := .strict

def oneTalkOutcome : SearchOutcome where
  schedule := { slots := [((∅ : Slot).assign oneTalk.ledger ⟨0⟩).1, ∅] }
  score := ⟨50, 0⟩
  strategy := .heuristic
  heuristicScore := some 50
  randomScore := none
  candidates := 0

/-- The first discussion is scheduled when a second one comes in. -/
def secondTalk : Conference :=
  (((oneTalk.startSearch .strict).2.commit oneTalkOutcome.schedule).2.mutated
    (.addDiscussion ⟨0⟩ "databases" true)).mutated (.setInterest ⟨0⟩ ⟨1⟩ 40)

def secondTalkSnapshot : Snapshot where
  ledger := secondTalk.ledger
  locked := ∅
  slotCount := 2
  prior := some oneTalkOutcome.schedule
  worklist := [⟨0⟩, ⟨1⟩]
  validation := .production

def secondTalkOutcome : SearchOutcome where
  schedule := {
    slots := [((∅ : Slot).assign secondTalk.ledger ⟨0⟩).1,
      ((∅ : Slot).assign secondTalk.ledger ⟨1⟩).1] }
  score := ⟨90, 0⟩
  strategy := .heuristic
  heuristicScore := some 90
  randomScore := none
  candidates := 0

/-- A slot is locked while the search for both discussions runs. -/
def lockedMeanwhile (index : Nat) : Live where
  conference := (secondTalk.startSearch .production).2.mutated
    (.setLockedSlots (SlotSet.ofList [index]))
  inFlight := [secondTalkSnapshot]

theorem greedyOutcome_oneTalkSnapshot : oneTalkSnapshot.greedyOutcome = oneTalkOutcome := by
  have horder : oneTalkSnapshot.byDemand = [⟨0⟩] := List.mergeSort_singleton _
  unfold Snapshot.greedyOutcome Snapshot.greedyScore Snapshot.greedy
  rw [horder]
  decide

theorem greedyOutcome_secondTalkSnapshot :
    secondTalkSnapshot.greedyOutcome = secondTalkOutcome := by
  have horder : secondTalkSnapshot.byDemand = [⟨0⟩, ⟨1⟩] :=
    List.mergeSort_of_pairwise (by decide)
  unfold Snapshot.greedyOutcome Snapshot.greedyScore Snapshot.greedy
  rw [horder]
  decide

theorem lockedMeanwhile_reachable (index : Nat) : (lockedMeanwhile index).Reachable := by
  have hfirst : Reachable { conference := oneTalk } :=
    (((Reachable.new morning).step (.mutate _ (.addUser "ada"))).step
      (.mutate _ (.addDiscussion ⟨0⟩ "compilers" true))).step (.mutate _ (.setInterest ⟨0⟩ ⟨0⟩ 50))
  have hstart : oneTalk.startSearch .strict =
      (.ok oneTalkSnapshot, (oneTalk.startSearch .strict).2) := Prod.ext (by decide) rfl
  have hstarted := hfirst.step (.start hstart)
  have hsearch := hstarted.good.search_heuristic_eq List.mem_cons_self {} (⟨[]⟩ : WordList)
  rw [greedyOutcome_oneTalkSnapshot] at hsearch
  have hcommitted := hstarted.step (.commit List.mem_cons_self hsearch)
  have hsecond : Reachable { conference := secondTalk } :=
    (hcommitted.step (.mutate _ (.addDiscussion ⟨0⟩ "databases" true))).step
      (.mutate _ (.setInterest ⟨0⟩ ⟨1⟩ 40))
  have hrestart : secondTalk.startSearch .production =
      (.ok secondTalkSnapshot, (secondTalk.startSearch .production).2) :=
    Prod.ext (by decide) rfl
  exact (hsecond.step (.start hrestart)).step
    (.mutate _ (.setLockedSlots (SlotSet.ofList [index])))

theorem search_secondTalkSnapshot :
    secondTalkSnapshot.search { algorithm := .heuristic } {} (⟨[]⟩ : WordList) =
      .ok secondTalkOutcome := by
  have hgood := (lockedMeanwhile_reachable 0).good
  rw [hgood.search_heuristic_eq List.mem_cons_self, greedyOutcome_secondTalkSnapshot]

theorem locked_slot_is_kept_meanwhile :
    (lockedMeanwhile 0).Reachable ∧
      (∃ after,
        (lockedMeanwhile 0).conference.commit secondTalkOutcome.schedule = (.ok (), after) ∧
          listedAt after.schedule 0 = [⟨0⟩] ∧ listedAt after.schedule 1 = [⟨1⟩]) ∧
      ∃ later, WhileLocked 0 (lockedMeanwhile 0) later ∧
        listedAt later.conference.schedule 0 = [⟨0⟩] ∧
          listedAt later.conference.schedule 1 = [⟨1⟩] := by
  have hreach := lockedMeanwhile_reachable 0
  have hmem : secondTalkSnapshot ∈ (lockedMeanwhile 0).inFlight := List.mem_cons_self
  obtain ⟨hcommits, hruns⟩ := locked_slots_are_never_overwritten hreach
  have hcommit : (lockedMeanwhile 0).conference.commit secondTalkOutcome.schedule =
      (.ok (), ((lockedMeanwhile 0).conference.commit secondTalkOutcome.schedule).2) :=
    Prod.ext (by decide) rfl
  refine ⟨hreach, ⟨_, hcommit, ?_, by decide⟩, ?_⟩
  · have hkept := hcommits _ hmem _ _ _ _ _ search_secondTalkSnapshot hcommit
    rw [hkept.2 0 (by decide)]
    decide
  · have hrun : WhileLocked 0 (lockedMeanwhile 0) _ :=
      .single ⟨by decide, .commit hmem search_secondTalkSnapshot⟩
    refine ⟨_, hrun, ?_, by decide⟩
    rw [hruns 0 _ hrun]
    decide

end Live

end Unconference
