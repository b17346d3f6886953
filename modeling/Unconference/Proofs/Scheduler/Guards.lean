import Unconference.Proofs.Conference.Failures
import Unconference.Proofs.Scheduler.Staleness

/-!
# Runs and their guards

A scheduler is shared by any number of callers, who take turns at its lock, and its runs are worked
on in tasks.  A task searches without the lock, then enters it with what it found, and stores the
timetable after the lock is released if there is one to store.  When it is over, because it returns,
panics or is called off, its guard is dropped, and the task is gone.

A run is outstanding until its task has got into the lock or has been dropped.  The duty to end it
lies with the guard for just as long, so it is carried out exactly once.
-/

namespace Unconference

/-- How far a task has come. -/
inductive Stage where
  | searching
  /-- The lock was poisoned. -/
  | turnedAway
  | storing (committed : Committed)
  /-- Nothing is left to do. -/
  | returning

structure Task where
  /-- How many runs were started before. -/
  number : Nat
  run : Run
  stage : Stage := .searching
  isArmed : Bool := true

/-- The snapshot is taken, and the task has not been inside the lock since. -/
def Task.isOutstanding (task : Task) : Bool :=
  match task.stage with
  | .searching => true
  | .turnedAway => true
  | .storing _ => false
  | .returning => false

/-- How far a task is with this answer from the lock. -/
def Stage.after : Except SchedulerError Committed → Stage
  | .ok committed => .storing committed
  | .error .poisoned => .turnedAway
  | .error _ => .returning

structure Shared where
  scheduler : Scheduler
  directory : Directory
  tasks : List Task := []
  starts : Nat := 0
  /-- The numbers of the runs that were ended, once for every time. -/
  ended : List Nat := []

namespace Shared

/-- The numbers of the runs outstanding among these tasks. -/
def pending (tasks : List Task) : List Nat := (tasks.filter (·.isOutstanding)).map (·.number)

def outstanding (shared : Shared) : List Nat := pending shared.tasks

def isRunning (shared : Shared) : Bool := shared.scheduler.conference.state.isRunning

def performed (shared : Shared) (mutation : Mutation) : Shared :=
  { shared with scheduler := (shared.scheduler.perform mutation).2 }

def begun (shared : Shared) (run : Run) (scheduler : Scheduler) : Shared :=
  { shared with
    scheduler
    tasks := { number := shared.starts, run } :: shared.tasks
    starts := shared.starts + 1 }

/-- A task comes to the lock with what it found.  If it gets in, that ends its run. -/
def entered (shared : Shared) (before : List Task) (task : Task) (after : List Task)
    (found : Except SearchFailure SearchOutcome) : Shared :=
  let (answer, isArmed, scheduler) := shared.scheduler.enter found
  { shared with
    scheduler
    tasks := before ++ { task with stage := .after answer, isArmed } :: after
    ended :=
      if shared.scheduler.isPoisoned then shared.ended else shared.ended ++ [task.number] }

/-- A task stores its timetable, or crashes as it does so. -/
def stored (shared : Shared) (persistence : Persistence) (before : List Task) (task : Task)
    (after : List Task) (committed : Committed) : Shared :=
  { shared with
    directory := (Scheduler.store persistence shared.directory committed).2
    tasks := before ++ { task with stage := .returning } :: after }

/-- A task is over.  If its guard is armed, that ends its run. -/
def dropped (shared : Shared) (before : List Task) (task : Task) (after : List Task) : Shared :=
  { shared with
    scheduler := shared.scheduler.dropGuard task.isArmed
    tasks := before ++ after
    ended := if task.isArmed then shared.ended ++ [task.number] else shared.ended }

/-- What can happen next.  The relation `finds` says what the search of a run may come to. -/
inductive Step (finds : Run → Except SearchFailure SearchOutcome → Prop)
    (persistence : Persistence) : Shared → Shared → Prop
  | mutate (shared : Shared) (mutation : Mutation) :
      Step finds persistence shared (shared.performed mutation)
  | start {shared : Shared} {options : SearchOptions} {hasRuntime : Bool} {run : Run}
      {after : Scheduler} :
      shared.scheduler.makeSchedule options hasRuntime = (.ok run, after) →
      Step finds persistence shared (shared.begun run after)
  | refuse {shared : Shared} {options : SearchOptions} {hasRuntime : Bool}
      {error : SchedulerError} {after : Scheduler} :
      shared.scheduler.makeSchedule options hasRuntime = (.error error, after) →
      Step finds persistence shared { shared with scheduler := after }
  | enter {shared : Shared} {before after : List Task} {task : Task}
      {found : Except SearchFailure SearchOutcome} :
      shared.tasks = before ++ task :: after → task.stage = .searching → finds task.run found →
      Step finds persistence shared (shared.entered before task after found)
  | store {shared : Shared} {before after : List Task} {task : Task} {committed : Committed} :
      shared.tasks = before ++ task :: after → task.stage = .storing committed →
      Step finds persistence shared (shared.stored persistence before task after committed)
  | drop {shared : Shared} {before after : List Task} {task : Task} :
      shared.tasks = before ++ task :: after → (∀ committed, task.stage ≠ .storing committed) →
      Step finds persistence shared (shared.dropped before task after)
  | poison (shared : Shared) :
      Step finds persistence shared { shared with scheduler := shared.scheduler.poison }

inductive Reachable (finds : Run → Except SearchFailure SearchOutcome → Prop)
    (persistence : Persistence) : Shared → Prop
  | new (timetable : Timetable) (directory : Directory) :
      Reachable finds persistence { scheduler := .new timetable, directory }
  | step {shared later : Shared} :
      Reachable finds persistence shared → Step finds persistence shared later →
      Reachable finds persistence later

end Shared

/-! ## The running flag -/

namespace Scheduler

variable {scheduler after : Scheduler}

theorem isRunning_perform (scheduler : Scheduler) (mutation : Mutation) :
    (scheduler.perform mutation).2.conference.state.isRunning =
      scheduler.conference.state.isRunning := by
  rcases scheduler.perform_cases mutation with ⟨error, hrefused⟩ | ⟨hgranted, _⟩
  · rw [hrefused]
  · rw [hgranted]
    exact Conference.isRunning_mutated _ mutation

theorem isRunning_of_makeSchedule
    {options : SearchOptions} {hasRuntime : Bool} {run : Run}
    (hmake : scheduler.makeSchedule options hasRuntime = (.ok run, after)) :
    scheduler.conference.state.isRunning = false ∧ after.conference.state.isRunning = true := by
  obtain ⟨conference, hstart, rfl⟩ := makeSchedule_eq_ok hmake
  obtain ⟨hidle, _, rfl⟩ := Conference.startSearch_eq_ok hstart
  exact ⟨hidle, rfl⟩

theorem makeSchedule_fst
    (hpoisoned : scheduler.isPoisoned = false) (options : SearchOptions) :
    (scheduler.makeSchedule options true).1 =
      ((scheduler.conference.startSearch options.validation).1.mapError .refused).map
        ({ snapshot := ·, options }) := by
  unfold makeSchedule locked
  simp only [hpoisoned, Bool.false_eq_true, if_false, if_true]
  cases scheduler.conference.startSearch options.validation with
  | mk answer conference => cases answer <;> rfl

/-- Within a runtime a run in progress is what the refusal says, exactly if there is one. -/
theorem makeSchedule_searchInProgress_iff
    (hpoisoned : scheduler.isPoisoned = false) (options : SearchOptions) :
    (scheduler.makeSchedule options true).1 = .error (.refused .searchInProgress) ↔
      scheduler.conference.state.isRunning = true := by
  rw [makeSchedule_fst hpoisoned, ← Conference.startSearch_searchInProgress_iff _
    options.validation]
  cases (scheduler.conference.startSearch options.validation).1 <;>
    simp [Except.mapError, Except.map]

end Scheduler

namespace Shared

variable {finds : Run → Except SearchFailure SearchOutcome → Prop} {persistence : Persistence}
  {shared later : Shared} {task : Task} {before after : List Task}

/-! ## The runs outstanding -/

@[simp] theorem pending_append (before after : List Task) :
    pending (before ++ after) = pending before ++ pending after := by
  simp [pending]

theorem pending_cons_of_outstanding (htask : task.isOutstanding = true) (after : List Task) :
    pending (task :: after) = task.number :: pending after := by
  simp [pending, htask]

theorem pending_cons_of_over (hover : task.isOutstanding = false) (after : List Task) :
    pending (task :: after) = pending after := by
  simp [pending, hover]

theorem outstanding_of_outstanding
    (htasks : shared.tasks = before ++ task :: after) (htask : task.isOutstanding = true) :
    shared.outstanding = pending before ++ task.number :: pending after := by
  rw [outstanding, htasks, pending_append, pending_cons_of_outstanding htask]

theorem outstanding_of_over
    (htasks : shared.tasks = before ++ task :: after) (hover : task.isOutstanding = false) :
    shared.outstanding = pending before ++ pending after := by
  rw [outstanding, htasks, pending_append, pending_cons_of_over hover]

/-! ## The invariant -/

structure Good (shared : Shared) : Prop where
  running : shared.outstanding.length = shared.isRunning.toNat
  armed : ∀ task ∈ shared.tasks, task.isArmed = task.isOutstanding
  accounted : (shared.ended ++ shared.outstanding).Perm (List.range shared.starts)

theorem good_new (timetable : Timetable) (directory : Directory) :
    Good { scheduler := .new timetable, directory } := by
  constructor
  · rfl
  · intro task hmem
    cases hmem
  · rfl

theorem Good.only
    (hgood : shared.Good) (htasks : shared.tasks = before ++ task :: after)
    (htask : task.isOutstanding = true) :
    shared.outstanding = [task.number] ∧ pending before = [] ∧ pending after = [] := by
  have hsplit := outstanding_of_outstanding htasks htask
  have hrunning := hgood.running
  have hle := Bool.toNat_le shared.isRunning
  rw [hsplit, List.length_append, List.length_cons] at hrunning
  have hbefore : pending before = [] := List.length_eq_zero_iff.1 (by omega)
  have hafter : pending after = [] := List.length_eq_zero_iff.1 (by omega)
  refine ⟨?_, hbefore, hafter⟩
  rw [hsplit, hbefore, hafter]
  rfl

/-! ## What a step does -/

/-- A step leaves the outstanding runs alone, or begins the only one, or ends it. -/
inductive Turn (shared later : Shared) : Prop
  | quiet :
      later.outstanding = shared.outstanding → later.isRunning = shared.isRunning →
      later.ended = shared.ended → later.starts = shared.starts → Turn shared later
  | begins :
      shared.outstanding = [] → later.outstanding = [shared.starts] → later.isRunning = true →
      later.ended = shared.ended → later.starts = shared.starts + 1 → Turn shared later
  | ends {number : Nat} :
      shared.outstanding = [number] → later.outstanding = [] → later.isRunning = false →
      later.ended = shared.ended ++ [number] → later.starts = shared.starts → Turn shared later

/-- Whatever a task comes to the lock with, if it gets in its run is ended there. -/
theorem Good.turn_entered
    (hgood : shared.Good) (htasks : shared.tasks = before ++ task :: after)
    (hstage : task.stage = .searching) (found : Except SearchFailure SearchOutcome) :
    Turn shared (shared.entered before task after found) := by
  have htask : task.isOutstanding = true := by simp [Task.isOutstanding, hstage]
  obtain ⟨honly, hbefore, hafter⟩ := hgood.only htasks htask
  rcases shared.scheduler.enter_cases found with
    ⟨hpoisoned, henter⟩ |
      ⟨hopen, ⟨refusal, henter⟩ | ⟨outcome, conference, _, hcommit, henter⟩⟩
  · simp only [entered, henter, hpoisoned, if_true]
    refine .quiet ?_ rfl rfl rfl
    rw [outstanding_of_outstanding htasks htask]
    exact pending_append before _
  · simp only [entered, henter, hopen, Bool.false_eq_true, if_false]
    refine .ends honly ?_ rfl rfl rfl
    rw [outstanding_of_over rfl rfl, hbefore, hafter]
    rfl
  · obtain ⟨_, rfl⟩ := Conference.commit_eq_ok hcommit
    simp only [entered, henter, hopen, Bool.false_eq_true, if_false]
    refine .ends honly ?_ rfl rfl rfl
    rw [outstanding_of_over rfl rfl, hbefore, hafter]
    rfl

theorem Good.turn_dropped
    (hgood : shared.Good) (htasks : shared.tasks = before ++ task :: after) :
    Turn shared (shared.dropped before task after) := by
  have harmed := hgood.armed task (htasks ▸ List.mem_append_right before List.mem_cons_self)
  have hrest : (shared.dropped before task after).outstanding =
      pending before ++ pending after := pending_append before after
  cases htask : task.isOutstanding with
  | true =>
      obtain ⟨honly, hbefore, hafter⟩ := hgood.only htasks htask
      rw [htask] at harmed
      rw [hbefore, hafter] at hrest
      refine .ends honly hrest ?_ ?_ rfl
      · rw [dropped, harmed]
        rfl
      · rw [dropped, harmed]
        rfl
  | false =>
      rw [htask] at harmed
      rw [← outstanding_of_over htasks htask] at hrest
      refine .quiet hrest ?_ ?_ rfl
      · rw [dropped, harmed]
        rfl
      · rw [dropped, harmed]
        rfl

theorem Step.turn (hstep : Step finds persistence shared later) (hgood : shared.Good) :
    Turn shared later := by
  cases hstep with
  | mutate mutation => exact .quiet rfl (shared.scheduler.isRunning_perform mutation) rfl rfl
  | @start _ _ run scheduler hmake =>
      obtain ⟨hidle, hbusy⟩ := Scheduler.isRunning_of_makeSchedule hmake
      have hnone := eq_nil_of_toNat hgood.running hidle
      have hnew : (shared.begun run scheduler).outstanding =
          shared.starts :: shared.outstanding := rfl
      rw [hnone] at hnew
      exact .begins hnone hnew hbusy rfl rfl
  | refuse hmake =>
      obtain rfl := Scheduler.makeSchedule_eq_error hmake
      exact .quiet rfl rfl rfl rfl
  | enter htasks hstage _ => exact hgood.turn_entered htasks hstage _
  | @store before after task committed htasks hstage =>
      have hover : task.isOutstanding = false := by simp [Task.isOutstanding, hstage]
      refine .quiet ?_ rfl rfl rfl
      rw [outstanding_of_over htasks hover]
      exact outstanding_of_over rfl rfl
  | drop htasks => exact hgood.turn_dropped htasks
  | poison => exact .quiet rfl rfl rfl rfl

/-- The guard of a task is armed as long as its run is outstanding. -/
theorem Step.armed (hstep : Step finds persistence shared later) (hgood : shared.Good) :
    ∀ task ∈ later.tasks, task.isArmed = task.isOutstanding := by
  have harmed := hgood.armed
  cases hstep with
  | mutate | refuse | poison => exact harmed
  | start =>
      intro task hmem
      rcases List.mem_cons.1 hmem with rfl | hearlier
      · rfl
      · exact harmed task hearlier
  | @enter _ _ _ found htasks _ _ =>
      rw [htasks, List.forall_mem_append, List.forall_mem_cons] at harmed
      rcases shared.scheduler.enter_cases found with
        ⟨_, henter⟩ | ⟨_, ⟨_, henter⟩ | ⟨_, _, _, _, henter⟩⟩ <;>
        simp only [entered, henter] <;>
        exact List.forall_mem_append.2 ⟨harmed.1, List.forall_mem_cons.2 ⟨rfl, harmed.2.2⟩⟩
  | store htasks hstage =>
      rw [htasks, List.forall_mem_append, List.forall_mem_cons] at harmed
      refine List.forall_mem_append.2 ⟨harmed.1, List.forall_mem_cons.2 ⟨?_, harmed.2.2⟩⟩
      rw [harmed.2.1]
      simp [Task.isOutstanding, hstage]
  | drop htasks _ =>
      rw [htasks, List.forall_mem_append, List.forall_mem_cons] at harmed
      exact List.forall_mem_append.2 ⟨harmed.1, harmed.2.2⟩

/-! ## Every run is accounted for -/

theorem Turn.running (hturn : Turn shared later) (hgood : shared.Good) :
    later.outstanding.length = later.isRunning.toNat := by
  cases hturn with
  | quiet houtstanding hrunning _ _ =>
      rw [houtstanding, hrunning]
      exact hgood.running
  | begins _ houtstanding hrunning _ _ =>
      rw [houtstanding, hrunning]
      rfl
  | ends _ houtstanding hrunning _ _ =>
      rw [houtstanding, hrunning]
      rfl

theorem Turn.accounted (hturn : Turn shared later) (hgood : shared.Good) :
    (later.ended ++ later.outstanding).Perm (List.range later.starts) := by
  have hbefore := hgood.accounted
  cases hturn with
  | quiet houtstanding _ hended hstarts =>
      rw [houtstanding, hended, hstarts]
      exact hbefore
  | begins hnone houtstanding _ hended hstarts =>
      rw [hnone, List.append_nil] at hbefore
      rw [houtstanding, hended, hstarts, List.range_succ]
      exact hbefore.append_right _
  | ends honly houtstanding _ hended hstarts =>
      rw [houtstanding, hended, hstarts, List.append_nil, ← honly]
      exact hbefore

theorem Reachable.good (hreach : shared.Reachable finds persistence) : shared.Good := by
  induction hreach with
  | new timetable directory => exact good_new timetable directory
  | step _ hstep ih =>
      have hturn := hstep.turn ih
      exact ⟨hturn.running ih, hstep.armed ih, hturn.accounted ih⟩

theorem Good.nodup (hgood : shared.Good) : (shared.ended ++ shared.outstanding).Nodup :=
  hgood.accounted.nodup_iff.2 List.nodup_range

theorem Good.dropGuard_of_over
    (hgood : shared.Good) (hmem : task ∈ shared.tasks) (hover : task.isOutstanding = false) :
    shared.scheduler.dropGuard task.isArmed = shared.scheduler := by
  rw [hgood.armed task hmem, hover]
  rfl

/-- At most one run is outstanding, and one is exactly while the flag says so; that is what keeps
another one from starting, and a refused start leaves everything alone.  Every run that was started
is outstanding or was ended once.  No step but the end of an outstanding run itself clears its flag,
and the guard of a run that has been inside the lock touches nothing any more. -/
theorem searches_exclude_each_other_and_end_once
    {finds : Run → Except SearchFailure SearchOutcome → Prop} {persistence : Persistence}
    {shared : Shared} (hreach : shared.Reachable finds persistence) :
    shared.outstanding.length = (if shared.isRunning then 1 else 0) ∧
    (shared.scheduler.isPoisoned = false →
      (∃ state, shared.scheduler.state = .ok state ∧
        shared.outstanding.length = if state.isRunning then 1 else 0) ∧
      ∀ options,
        (shared.scheduler.makeSchedule options true).1 = .error (.refused .searchInProgress) ↔
          shared.outstanding.length = 1) ∧
    (∀ options hasRuntime error after,
      shared.scheduler.makeSchedule options hasRuntime = (.error error, after) →
        after = shared.scheduler) ∧
    shared.ended.Nodup ∧
    (shared.ended ++ shared.outstanding).Perm (List.range shared.starts) ∧
    (∀ task ∈ shared.tasks, task.isOutstanding = false →
      shared.scheduler.dropGuard task.isArmed = shared.scheduler) ∧
    ∀ later, Step finds persistence shared later → ∀ number ∈ shared.outstanding,
      (number ∈ later.outstanding ∧ later.isRunning = true ∧ number ∉ later.ended) ∨
        (later.outstanding = [] ∧ later.isRunning = false ∧
          later.ended = shared.ended ++ [number]) := by
  have hgood := hreach.good
  have hcount : shared.outstanding.length = if shared.isRunning then 1 else 0 := by
    rw [hgood.running]
    cases shared.isRunning <;> rfl
  refine ⟨hcount, ?_, ?_, hgood.nodup.of_append_left, hgood.accounted, ?_, ?_⟩
  · intro hpoisoned
    refine ⟨⟨_, Scheduler.state_of_not_poisoned hpoisoned, hcount⟩, ?_⟩
    intro options
    rw [Scheduler.makeSchedule_searchInProgress_iff hpoisoned, hgood.running, Bool.toNat_eq_one]
    rfl
  · intro options hasRuntime error after hmake
    exact Scheduler.makeSchedule_eq_error hmake
  · intro task hmem hover
    exact hgood.dropGuard_of_over hmem hover
  · intro later hstep number hmem
    have hlater := (hreach.step hstep).good
    cases hstep.turn hgood with
    | quiet houtstanding _ _ _ =>
        rw [← houtstanding] at hmem
        refine .inl ⟨hmem, eq_true_of_mem_of_toNat hlater.running hmem, ?_⟩
        exact fun hended => List.disjoint_of_nodup_append hlater.nodup hended hmem
    | begins hnone =>
        rw [hnone] at hmem
        cases hmem
    | ends honly houtstanding hrunning hended _ =>
        rw [honly, List.mem_singleton] at hmem
        subst number
        exact .inr ⟨houtstanding, hrunning, hended⟩

/-! ## A crash beside a search -/

open Live Chronicle

theorem Reachable.performAll
    (hreach : shared.Reachable finds persistence) (mutations : List Mutation) :
    (mutations.foldl performed shared).Reachable finds persistence := by
  induction mutations generalizing shared with
  | nil => exact hreach
  | cons mutation rest ih => exact ih (hreach.step (.mutate shared mutation))

def oneTalkWaiting : Shared :=
  [.addUser "ada", .addDiscussion ⟨0⟩ "compilers" true, .setInterest ⟨0⟩ ⟨0⟩ 50].foldl performed
    { scheduler := .new morning, directory := ∅ }

def firstTask : Task := { number := 0, run := oneTalkRun }

/-- The first run is committed and has its timetable to store. -/
def firstCommitted : Shared :=
  (oneTalkWaiting.begun oneTalkRun
      (oneTalkWaiting.scheduler.makeSchedule oneTalkRun.options true).2).entered
    [] firstTask [] (.ok oneTalkOutcome)

def secondRun : Run where
  snapshot := { oneTalkRun.snapshot with prior := some oneTalkOutcome.schedule }
  options := oneTalkRun.options

/-- The second run searches while the first one is not over. -/
def overlapping : Shared :=
  firstCommitted.begun secondRun
    (firstCommitted.scheduler.makeSchedule oneTalkRun.options true).2

theorem overlapping_reachable : overlapping.Reachable Run.Finds .crashing := by
  have hwaiting : oneTalkWaiting.Reachable Run.Finds .crashing :=
    (Reachable.new morning ∅).performAll _
  have hmake : oneTalkWaiting.scheduler.makeSchedule oneTalkRun.options true =
      (.ok oneTalkRun, (oneTalkWaiting.scheduler.makeSchedule oneTalkRun.options true).2) :=
    Prod.ext (by decide) rfl
  have hcommitted : firstCommitted.Reachable Run.Finds .crashing :=
    (hwaiting.step (.start hmake)).step (.enter rfl rfl finds_oneTalkRun)
  have hnext : firstCommitted.scheduler.makeSchedule oneTalkRun.options true =
      (.ok secondRun, (firstCommitted.scheduler.makeSchedule oneTalkRun.options true).2) :=
    Prod.ext (by decide) rfl
  exact hcommitted.step (.start hnext)

/-- The first run crashes as it stores its timetable, and the second one still searches. -/
theorem searches_exclude_each_other_beside_a_crash :
    ∃ shared : Shared, shared.Reachable Run.Finds .crashing ∧
      shared.tasks.map (·.number) = [1] ∧ shared.ended = [0] ∧
      shared.outstanding.length = 1 ∧
      (shared.scheduler.makeSchedule {} true).1 = .error (.refused .searchInProgress) := by
  have htasks : overlapping.tasks = [{ number := 1, run := secondRun }] ++ _ :: [] := rfl
  have hstored := overlapping_reachable.step (.store htasks rfl)
  have hdropped := hstored.step (.drop rfl fun _ => by simp)
  obtain ⟨hcount, hrefused, _⟩ := searches_exclude_each_other_and_end_once hdropped
  exact ⟨_, hdropped, rfl, rfl, hcount, ((hrefused rfl).2 {}).2 hcount⟩

end Shared

end Unconference
