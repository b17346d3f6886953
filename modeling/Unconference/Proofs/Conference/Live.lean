import Unconference.Proofs.Conference.Operations

/-!
# Conferences while searches run

A live conference is a conference together with the snapshots that searches are still working on.
Data may change at any time, a search may start at any time, and one that runs ends with the commit
of what it found on its snapshot or without one.  Whatever the order of these steps, at most one
search is under way, the schedule that its snapshot was taken with is still the committed one, and
the committed schedule has the slots of the calendar and lists nothing twice.
-/

namespace Unconference

/-- The operations that change the data of a conference. -/
inductive Mutation where
  | addUser (name : String)
  | addDiscussion (owner : UserId) (title : String) (isPublic : Bool)
  | setInterest (user : UserId) (discussion : DiscussionId) (value : Int)
  | setPublic (discussion : DiscussionId) (isPublic : Bool)
  | setPossibleSlots (discussion : DiscussionId) (possibleSlots : SlotSet)
  | setLockedSlots (locked : SlotSet)

/-- The conference after an operation, successful or not. -/
def Conference.mutated (conference : Conference) : Mutation → Conference
  | .addUser name => (conference.addUser name).2
  | .addDiscussion owner title isPublic => (conference.addDiscussion owner title isPublic).2
  | .setInterest user discussion value => (conference.setInterest user discussion value).2
  | .setPublic discussion isPublic => (conference.setPublic discussion isPublic).2
  | .setPossibleSlots discussion possibleSlots =>
    (conference.setPossibleSlots discussion possibleSlots).2
  | .setLockedSlots locked => conference.setLockedSlots locked

structure Live where
  conference : Conference
  inFlight : List Snapshot := []

namespace Live

inductive Step : Live → Live → Prop
  | mutate (live : Live) (mutation : Mutation) :
      Step live { live with conference := live.conference.mutated mutation }
  | start {live : Live} {validation : Validation} {snapshot : Snapshot} {after : Conference} :
      live.conference.startSearch validation = (.ok snapshot, after) →
      Step live { conference := after, inFlight := snapshot :: live.inFlight }
  | refuse {live : Live} {validation : Validation} {refusal : Refusal} {after : Conference} :
      live.conference.startSearch validation = (.error refusal, after) →
      Step live { live with conference := after }
  | commit {live : Live} {snapshot : Snapshot} {σ : Type} [RandomSource σ]
      {options : SearchOptions} {clock : Clock} {source : σ} {outcome : SearchOutcome} :
      snapshot ∈ live.inFlight → snapshot.search options clock source = .ok outcome →
      Step live {
        conference := (live.conference.commit outcome.schedule).2
        inFlight := live.inFlight.erase snapshot }
  | abort {live : Live} {snapshot : Snapshot} :
      snapshot ∈ live.inFlight →
      Step live {
        conference := live.conference.abortSearch
        inFlight := live.inFlight.erase snapshot }

/-- The states that a new conference for any timetable comes to. -/
inductive Reachable : Live → Prop
  | new (timetable : Timetable) : Reachable { conference := .new timetable }
  | step {live later : Live} : Reachable live → Step live later → Reachable later

end Live

/-! ## Mutations -/

namespace Conference

theorem schedule_mutated (conference : Conference) (mutation : Mutation) :
    (conference.mutated mutation).schedule = conference.schedule := by
  cases mutation <;>
    simp [mutated, addUser, addDiscussion, setInterest, setPublic, setPossibleSlots,
      setLockedSlots, withLedger_snd]

theorem slotCount_mutated (conference : Conference) (mutation : Mutation) :
    (conference.mutated mutation).timetable.slotCount = conference.timetable.slotCount := by
  cases mutation <;>
    simp [mutated, addUser, addDiscussion, setInterest, setPublic, setPossibleSlots,
      setLockedSlots, withLedger_snd]

theorem isRunning_mutated (conference : Conference) (mutation : Mutation) :
    (conference.mutated mutation).state.isRunning = conference.state.isRunning := by
  cases mutation <;>
    simp [mutated, addUser, addDiscussion, setInterest, setPublic, setPossibleSlots,
      setLockedSlots, RunState.modified]

theorem ledger_mutated (conference : Conference) (mutation : Mutation) :
    (conference.mutated mutation).ledger =
      match mutation with
      | .addUser name => (conference.ledger.addUser name).2
      | .addDiscussion owner title isPublic =>
        (conference.ledger.addDiscussion owner title isPublic conference.timetable.slotCount).2
      | .setInterest user discussion value =>
        (conference.ledger.setInterest user discussion value).2
      | .setPublic discussion isPublic => (conference.ledger.setPublic discussion isPublic).2
      | .setPossibleSlots discussion possibleSlots =>
        (conference.ledger.setPossibleSlots discussion possibleSlots).2
      | .setLockedSlots _ => conference.ledger := by
  cases mutation <;>
    simp [mutated, addUser, addDiscussion, setInterest, setPublic, setPossibleSlots,
      setLockedSlots, withLedger_snd]

theorem reachable_ledger_mutated
    {conference : Conference} (hledger : conference.ledger.Reachable) (mutation : Mutation) :
    (conference.mutated mutation).ledger.Reachable := by
  rw [ledger_mutated]
  cases mutation with
  | addUser name => exact hledger.addUser name
  | addDiscussion owner title isPublic => exact hledger.addDiscussion owner title isPublic _
  | setInterest user discussion value => exact hledger.setInterest user discussion value
  | setPublic discussion isPublic => exact hledger.setPublic discussion isPublic
  | setPossibleSlots discussion possibleSlots =>
      exact hledger.setPossibleSlots discussion possibleSlots
  | setLockedSlots locked => exact hledger

end Conference

/-! ## The invariant -/

section

variable {α : Type} {outstanding : List α} {isRunning : Bool}

/-- Of what there is at most one, nothing is left without it. -/
theorem erase_eq_nil_of_toNat
    [DecidableEq α] (hrunning : outstanding.length = isRunning.toNat) {only : α}
    (hmem : only ∈ outstanding) : outstanding.erase only = [] := by
  have hlength := List.length_erase_of_mem hmem
  have hone := Bool.toNat_le isRunning
  apply List.length_eq_zero_iff.1
  omega

theorem eq_true_of_mem_of_toNat
    (hrunning : outstanding.length = isRunning.toNat) {only : α} (hmem : only ∈ outstanding) :
    isRunning = true := by
  have hpos := List.length_pos_of_mem hmem
  cases isRunning with
  | false => simp [hrunning] at hpos
  | true => rfl

theorem eq_nil_of_toNat
    (hrunning : outstanding.length = isRunning.toNat) (hidle : isRunning = false) :
    outstanding = [] := by
  apply List.length_eq_zero_iff.1
  rw [hrunning, hidle]
  rfl

end

/-- A snapshot of the conference that may be older than its data, but not than its schedule. -/
structure Snapshot.Current (snapshot : Snapshot) (conference : Conference) : Prop where
  ledger : snapshot.ledger.Reachable
  worklist : snapshot.WorklistTaken
  prior : snapshot.prior = conference.schedule
  slotCount : snapshot.slotCount = conference.timetable.slotCount

theorem Snapshot.Current.of_same
    {snapshot : Snapshot} {conference after : Conference} (hcurrent : snapshot.Current conference)
    (hschedule : after.schedule = conference.schedule)
    (hslotCount : after.timetable.slotCount = conference.timetable.slotCount) :
    snapshot.Current after :=
  ⟨hcurrent.ledger, hcurrent.worklist, hcurrent.prior.trans hschedule.symm,
    hcurrent.slotCount.trans hslotCount.symm⟩

theorem Snapshot.current_of_take
    {conference : Conference} (hledger : conference.ledger.Reachable) {validation : Validation}
    {snapshot : Snapshot}
    (htake : Snapshot.take conference.ledger conference.locked conference.timetable.slotCount
      conference.schedule validation = .ok snapshot) : snapshot.Current conference := by
  have hworklist := Snapshot.worklistTaken_of_take htake
  obtain rfl := Snapshot.take_eq_ok htake
  exact ⟨hledger, hworklist, rfl, rfl⟩

namespace Live

structure Good (live : Live) : Prop where
  ledger : live.conference.ledger.Reachable
  running : live.inFlight.length = live.conference.state.isRunning.toNat
  size : ∀ schedule, live.conference.schedule = some schedule →
    schedule.size = live.conference.timetable.slotCount
  once : ListsOnce live.conference.schedule
  current : ∀ snapshot ∈ live.inFlight, snapshot.Current live.conference

variable {live : Live}

theorem good_new (timetable : Timetable) : Good { conference := .new timetable } := by
  constructor
  · exact .empty
  · rfl
  · intro schedule hschedule
    cases hschedule
  · intro schedule hschedule
    cases hschedule
  · intro snapshot hmem
    cases hmem

theorem Good.inFlight_erase
    (hgood : live.Good) {snapshot : Snapshot} (hmem : snapshot ∈ live.inFlight) :
    live.inFlight.erase snapshot = [] :=
  erase_eq_nil_of_toNat hgood.running hmem

theorem Good.afterMutate (hgood : live.Good) (mutation : Mutation) :
    Good { live with conference := live.conference.mutated mutation } := by
  have hschedule := live.conference.schedule_mutated mutation
  have hslotCount := live.conference.slotCount_mutated mutation
  constructor
  · exact Conference.reachable_ledger_mutated hgood.ledger mutation
  · rw [Conference.isRunning_mutated]
    exact hgood.running
  · rw [hschedule, hslotCount]
    exact hgood.size
  · rw [hschedule]
    exact hgood.once
  · intro snapshot hmem
    exact (hgood.current snapshot hmem).of_same hschedule hslotCount

theorem Good.afterStart
    (hgood : live.Good) {validation : Validation} {snapshot : Snapshot} {after : Conference}
    (hstart : live.conference.startSearch validation = (.ok snapshot, after)) :
    Good { conference := after, inFlight := snapshot :: live.inFlight } := by
  obtain ⟨hidle, htake, rfl⟩ := Conference.startSearch_eq_ok hstart
  have hnone := eq_nil_of_toNat hgood.running hidle
  have hcurrent := Snapshot.current_of_take hgood.ledger htake
  constructor
  · exact hgood.ledger
  · rw [hnone]
    rfl
  · exact hgood.size
  · exact hgood.once
  · intro other hmem
    rw [hnone, List.mem_singleton] at hmem
    subst other
    exact hcurrent.of_same rfl rfl

theorem Good.afterAbort
    (hgood : live.Good) {snapshot : Snapshot} (hmem : snapshot ∈ live.inFlight) :
    Good {
      conference := live.conference.abortSearch
      inFlight := live.inFlight.erase snapshot } := by
  rw [hgood.inFlight_erase hmem]
  constructor
  · exact hgood.ledger
  · rfl
  · exact hgood.size
  · exact hgood.once
  · intro other hother
    cases hother

/-! ## What a search in flight comes to -/

section

variable {snapshot : Snapshot} {conference : Conference}

theorem Good.distinct
    (hgood : live.Good) (hmem : snapshot ∈ live.inFlight) :
    (snapshot.worklist ++ snapshot.template.listings).Nodup := by
  have hcurrent := hgood.current snapshot hmem
  apply Snapshot.nodup_worklist_append_template hcurrent.worklist
  rw [hcurrent.prior]
  exact hgood.once

variable {σ : Type} [RandomSource σ] {options : SearchOptions} {clock : Clock} {source : σ}
  {outcome : SearchOutcome}

theorem Good.search_heuristic_eq
    (hgood : live.Good) (hmem : snapshot ∈ live.inFlight) (clock : Clock) (source : σ) :
    snapshot.search { algorithm := .heuristic } clock source = .ok snapshot.greedyOutcome :=
  Snapshot.search_heuristic_eq (hgood.current snapshot hmem).ledger.coherent
    (hgood.distinct hmem) clock source

theorem Good.builds
    (hgood : live.Good) (hmem : snapshot ∈ live.inFlight)
    (hsearch : snapshot.search options clock source = .ok outcome) :
    snapshot.Builds outcome.schedule := by
  have hledger := (hgood.current snapshot hmem).ledger.coherent
  exact (Snapshot.finds_of_search_eq_ok hledger hsearch).builds

theorem Good.size_outcome
    (hgood : live.Good) (hmem : snapshot ∈ live.inFlight)
    (hsearch : snapshot.search options clock source = .ok outcome) :
    outcome.schedule.size = live.conference.timetable.slotCount := by
  have hcurrent := hgood.current snapshot hmem
  have hfits := (hgood.builds hmem hsearch).fits hcurrent.ledger.coherent
  rw [hfits.size, hcurrent.slotCount]

theorem Good.afterCommit
    (hgood : live.Good) (hmem : snapshot ∈ live.inFlight)
    (hsearch : snapshot.search options clock source = .ok outcome) :
    Good {
      conference := (live.conference.commit outcome.schedule).2
      inFlight := live.inFlight.erase snapshot } := by
  have hsize := hgood.size_outcome hmem hsearch
  have hnodup := (hgood.builds hmem hsearch).nodup (hgood.distinct hmem)
  rcases live.conference.commit_cases outcome.schedule with
    ⟨index, _, hcommit⟩ | ⟨_, ⟨cause, _, hcommit⟩ | ⟨_, hcommit⟩⟩
  · rw [hcommit]
    exact hgood.afterAbort hmem
  · rw [hcommit]
    exact hgood.afterAbort hmem
  · rw [hcommit, hgood.inFlight_erase hmem]
    constructor
    · exact hgood.ledger
    · rfl
    · intro schedule hschedule
      obtain rfl := Option.some.inj hschedule
      simpa using hsize
    · intro schedule hschedule
      obtain rfl := Option.some.inj hschedule
      exact hnodup
    · intro other hother
      cases hother

end

theorem Step.good {later : Live} (hstep : Step live later) (hgood : live.Good) : later.Good := by
  cases hstep with
  | mutate mutation => exact hgood.afterMutate mutation
  | start hstart => exact hgood.afterStart hstart
  | refuse hstart =>
      rw [Conference.startSearch_eq_error hstart]
      exact hgood
  | commit hmem hsearch => exact hgood.afterCommit hmem hsearch
  | abort hmem => exact hgood.afterAbort hmem

theorem Reachable.good (hreach : live.Reachable) : live.Good := by
  induction hreach with
  | new timetable => exact good_new timetable
  | step _ hstep ih => exact hstep.good ih

end Live

end Unconference
