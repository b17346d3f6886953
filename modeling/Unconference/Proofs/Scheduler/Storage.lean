import Unconference.Proofs.Directory
import Unconference.Proofs.Scheduler.Guards

/-!
# What is stored

A run stores its timetable after it has left the lock.  By then another run may have been started,
so runs need not store in the order in which they committed.  A log of the commits and of the stores
tells what is stored in the end: what the last run to store had committed.  Another run may have
committed later, but only while that one had yet to store.
-/

namespace Unconference

/-- Saving always succeeds, and what is read afterwards is the timetable that was saved, as `encode`
writes it. -/
structure Persistence.Replaces {Stored : Type} (persistence : Persistence)
    (encode : Timetable → Stored) (read : Directory → Option Stored) : Prop where
  saved (timetable : Timetable) (directory : Directory) :
    (persistence timetable directory).1 = .saved
  read_saved (timetable : Timetable) (directory : Directory) :
    read (persistence timetable directory).2 = some (encode timetable)

theorem Persistence.toFile_replaces {name : String} (hname : Directory.IsFileName name) :
    (toFile name).Replaces (·.document.print) (·.read name) := by
  constructor
  · intro timetable directory
    rw [toFile, directory.write_of_isFileName hname]
  · intro timetable directory
    have hread := directory.read_write hname timetable.document.print
    simpa [toFile, directory.write_of_isFileName hname] using hread

/-- What a task has taken along from the lock to store. -/
def Task.toStore? (task : Task) : Option (Nat × Committed) :=
  match task.stage with
  | .storing committed => some (task.number, committed)
  | _ => none

/-! ## The log -/

/-- The run of this number commits, or stores what it has committed. -/
inductive Moment where
  | commit (number : Nat) (committed : Committed)
  | store (number : Nat) (committed : Committed)
deriving DecidableEq

namespace Moment

def number : Moment → Nat
  | commit number _ => number
  | store number _ => number

def committed? : Moment → Option Committed
  | commit _ committed => some committed
  | store _ _ => none

def stored? : Moment → Option Committed
  | commit _ _ => none
  | store _ committed => some committed

/-- The moments of one run. -/
def ofRun (number : Nat) (log : List Moment) : List Moment := log.filter (·.number = number)

/-- The commits, the oldest first. -/
def commits (log : List Moment) : List Committed := log.filterMap committed?

def stores (log : List Moment) : List Committed := log.filterMap stored?

/-- Whenever a run commits, the ones that committed before have stored. -/
def TakeTurns (log : List Moment) : Prop :=
  ∀ earlier number current later, log = earlier ++ commit number current :: later →
    ∀ other previous, commit other previous ∈ earlier → store other previous ∈ earlier

theorem ofRun_snoc_of_eq
    (log : List Moment) (moment : Moment) {number : Nat} (heq : moment.number = number) :
    ofRun number (log ++ [moment]) = ofRun number log ++ [moment] := by
  simp [ofRun, heq]

theorem ofRun_snoc_of_ne
    (log : List Moment) (moment : Moment) {number : Nat} (hne : moment.number ≠ number) :
    ofRun number (log ++ [moment]) = ofRun number log := by
  simp [ofRun, hne]

theorem mem_ofRun {moment : Moment} {log : List Moment} {number : Nat} :
    moment ∈ ofRun number log ↔ moment ∈ log ∧ moment.number = number := by
  simp [ofRun]

theorem commits_append (log later : List Moment) :
    commits (log ++ later) = commits log ++ commits later :=
  List.filterMap_append

theorem commits_eq_nil
    {log : List Moment} (hnone : ∀ number committed, commit number committed ∉ log) :
    commits log = [] := by
  rw [commits, List.filterMap_eq_nil_iff]
  intro moment hmem
  cases moment with
  | commit number committed => exact absurd hmem (hnone number committed)
  | store => rfl

/-- A commit while another run has yet to store is out of turn. -/
theorem TakeTurns.getLast?_commits
    {earlier meanwhile : List Moment} {number : Nat} {committed : Committed}
    (hturns : TakeTurns
      (earlier ++ commit number committed :: (meanwhile ++ [store number committed])))
    (hunstored : store number committed ∉ earlier ++ commit number committed :: meanwhile) :
    (commits (earlier ++ commit number committed ::
      (meanwhile ++ [store number committed]))).getLast? = some committed := by
  have hnone : commits (meanwhile ++ [store number committed]) = [] := by
    apply commits_eq_nil
    intro other later hmem
    have hother : commit other later ∈ meanwhile := by simpa using hmem
    obtain ⟨first, rest, rfl⟩ := List.append_of_mem hother
    have hstored := hturns (earlier ++ commit number committed :: first) other later
      (rest ++ [store number committed]) (by simp) number committed (by simp)
    apply hunstored
    rw [← List.cons_append, ← List.append_assoc]
    exact List.mem_append_left _ hstored
  have hcommits : commits (commit number committed :: (meanwhile ++ [store number committed])) =
      [committed] := congrArg (committed :: ·) hnone
  rw [commits_append, hcommits]
  exact List.getLast?_concat

end Moment

namespace Shared

open Moment

def toStore (tasks : List Task) : List (Nat × Committed) := tasks.filterMap (·.toStore?)

/-- The runs between their commit and their store. -/
def storing (shared : Shared) : List (Nat × Committed) := toStore shared.tasks

/-- The schedulers that are reached with this log, the oldest moment first.  A step that is neither
a commit nor a store leaves the runs in between as they are. -/
inductive Logged (finds : Run → Except SearchFailure SearchOutcome → Prop)
    (persistence : Persistence) : List Moment → Shared → Prop
  | new (timetable : Timetable) (directory : Directory) :
      Logged finds persistence [] { scheduler := .new timetable, directory }
  | commit {log : List Moment} {shared : Shared} {before after : List Task} {task : Task}
      {found : Except SearchFailure SearchOutcome} {committed : Committed} :
      Logged finds persistence log shared → shared.tasks = before ++ task :: after →
      task.stage = .searching → finds task.run found →
      (shared.scheduler.enter found).1 = .ok committed →
      Logged finds persistence (log ++ [.commit task.number committed])
        (shared.entered before task after found)
  | store {log : List Moment} {shared : Shared} {before after : List Task} {task : Task}
      {committed : Committed} :
      Logged finds persistence log shared → shared.tasks = before ++ task :: after →
      task.stage = .storing committed →
      Logged finds persistence (log ++ [.store task.number committed])
        (shared.stored persistence before task after committed)
  | other {log : List Moment} {shared later : Shared} :
      Logged finds persistence log shared → Step finds persistence shared later →
      later.storing = shared.storing → Logged finds persistence log later

variable {finds : Run → Except SearchFailure SearchOutcome → Prop} {persistence : Persistence}
  {shared later : Shared} {task : Task} {before after : List Task} {log : List Moment}

/-! ## The runs between their commit and their store -/

@[simp] theorem toStore_append (before after : List Task) :
    toStore (before ++ after) = toStore before ++ toStore after :=
  List.filterMap_append

theorem toStore_cons_of_storing {committed : Committed} (hstage : task.stage = .storing committed)
    (after : List Task) : toStore (task :: after) = (task.number, committed) :: toStore after := by
  simp [toStore, Task.toStore?, hstage]

theorem toStore_cons_of_not_storing (hstage : ∀ committed, task.stage ≠ .storing committed)
    (after : List Task) : toStore (task :: after) = toStore after := by
  have hnone : task.toStore? = none := by
    unfold Task.toStore?
    split
    · exact absurd ‹_› (hstage _)
    · rfl
  simp [toStore, hnone]

theorem storing_of_tasks {tasks : List Task} (htasks : shared.tasks = before ++ tasks) :
    shared.storing = toStore before ++ toStore tasks := by
  rw [storing, htasks, toStore_append]

theorem tasks_entered
    (shared : Shared) (before : List Task) (task : Task) (after : List Task)
    (found : Except SearchFailure SearchOutcome) :
    (shared.entered before task after found).tasks =
      before ++ { task with
        stage := .after (shared.scheduler.enter found).1
        isArmed := (shared.scheduler.enter found).2.1 } :: after :=
  rfl

theorem storing_entered_of_ok
    {found : Except SearchFailure SearchOutcome} {committed : Committed}
    (htasks : shared.tasks = before ++ task :: after) (hstage : task.stage = .searching)
    (henter : (shared.scheduler.enter found).1 = .ok committed) :
    ((shared.entered before task after found).storing).Perm
      ((task.number, committed) :: shared.storing) := by
  have hlater : (shared.entered before task after found).storing =
      toStore before ++ (task.number, committed) :: toStore after := by
    have hstoring : Stage.after (shared.scheduler.enter found).1 = .storing committed := by
      rw [henter]
      rfl
    rw [storing_of_tasks (shared.tasks_entered before task after found),
      toStore_cons_of_storing hstoring]
  rw [hlater, storing_of_tasks htasks, toStore_cons_of_not_storing (by simp [hstage])]
  exact List.perm_middle

theorem storing_entered_of_error
    {found : Except SearchFailure SearchOutcome} {error : SchedulerError}
    (htasks : shared.tasks = before ++ task :: after) (hstage : task.stage = .searching)
    (henter : (shared.scheduler.enter found).1 = .error error) :
    (shared.entered before task after found).storing = shared.storing := by
  have hlater : (shared.entered before task after found).storing =
      toStore before ++ toStore after := by
    have hover (committed : Committed) :
        Stage.after (shared.scheduler.enter found).1 ≠ .storing committed := by
      cases error <;> simp [henter, Stage.after]
    rw [storing_of_tasks (shared.tasks_entered before task after found),
      toStore_cons_of_not_storing hover]
  rw [hlater, storing_of_tasks htasks, toStore_cons_of_not_storing (by simp [hstage])]

theorem storing_stored
    (persistence : Persistence) {committed : Committed}
    (htasks : shared.tasks = before ++ task :: after) (hstage : task.stage = .storing committed) :
    shared.storing.Perm ((task.number, committed) ::
      (shared.stored persistence before task after committed).storing) := by
  have hlater : (shared.stored persistence before task after committed).storing =
      toStore before ++ toStore after := by
    rw [storing_of_tasks rfl, toStore_cons_of_not_storing (by simp)]
  rw [hlater, storing_of_tasks htasks, toStore_cons_of_storing hstage]
  exact List.perm_middle

theorem storing_dropped
    (htasks : shared.tasks = before ++ task :: after)
    (hstage : ∀ committed, task.stage ≠ .storing committed) :
    (shared.dropped before task after).storing = shared.storing := by
  rw [storing_of_tasks rfl, storing_of_tasks htasks, toStore_cons_of_not_storing hstage]

/-! ## Every reachable scheduler has a log -/

theorem Logged.reachable (hlogged : Logged finds persistence log shared) :
    shared.Reachable finds persistence := by
  induction hlogged with
  | new timetable directory => exact .new timetable directory
  | commit _ htasks hstage hfinds _ ih => exact ih.step (.enter htasks hstage hfinds)
  | store _ htasks hstage ih => exact ih.step (.store htasks hstage)
  | other _ hstep _ ih => exact ih.step hstep

theorem Logged.step
    (hlogged : Logged finds persistence log shared)
    (hstep : Step finds persistence shared later) :
    ∃ moments, Logged finds persistence (log ++ moments) later := by
  have hquiet (hstoring : later.storing = shared.storing) :
      ∃ moments, Logged finds persistence (log ++ moments) later :=
    ⟨[], (log.append_nil).symm ▸ hlogged.other hstep hstoring⟩
  cases hstep with
  | mutate | refuse | poison => exact hquiet rfl
  | start => exact hquiet rfl
  | @enter before after task found htasks hstage hfinds =>
      cases henter : (shared.scheduler.enter found).1 with
      | ok committed => exact ⟨_, hlogged.commit htasks hstage hfinds henter⟩
      | error error => exact hquiet (storing_entered_of_error htasks hstage henter)
  | store htasks hstage => exact ⟨_, hlogged.store htasks hstage⟩
  | drop htasks hstage => exact hquiet (storing_dropped htasks hstage)

theorem Reachable.logged (hreach : shared.Reachable finds persistence) :
    ∃ log, Logged finds persistence log shared := by
  induction hreach with
  | new timetable directory => exact ⟨[], .new timetable directory⟩
  | step _ hstep ih =>
      obtain ⟨log, hlogged⟩ := ih
      obtain ⟨moments, hlater⟩ := hlogged.step hstep
      exact ⟨_, hlater⟩

/-! ## What the log says about a run -/

/-- A run that has not been inside the lock has no moments yet, one that is about to store has
committed, and every other one has done both or neither. -/
structure Tally (log : List Moment) (shared : Shared) : Prop where
  fresh : ∀ number, number ∈ shared.outstanding ∨ shared.starts ≤ number → ofRun number log = []
  distinct : (shared.storing.map Prod.fst).Nodup
  storing : ∀ number committed, (number, committed) ∈ shared.storing →
    ofRun number log = [.commit number committed]
  settled : ∀ number, number ∉ shared.storing.map Prod.fst →
    ofRun number log = [] ∨
      ∃ committed, ofRun number log = [.commit number committed, .store number committed]

theorem tally_new (timetable : Timetable) (directory : Directory) :
    Tally [] { scheduler := .new timetable, directory } := by
  constructor
  · intro _ _
    rfl
  · exact List.nodup_nil
  · intro _ _ hmem
    cases hmem
  · intro _ _
    exact .inl rfl

theorem Good.fresh_of_mem_ended
    (hgood : shared.Good) {number : Nat} (hmem : number ∈ shared.ended) :
    ¬(number ∈ shared.outstanding ∨ shared.starts ≤ number) := by
  have hstarted : number ∈ List.range shared.starts :=
    hgood.accounted.mem_iff.1 (List.mem_append_left _ hmem)
  rintro (houtstanding | hlater)
  · exact List.disjoint_of_nodup_append hgood.nodup hmem houtstanding
  · exact Nat.not_lt.2 hlater (List.mem_range.1 hstarted)

/-- No run becomes fresh again. -/
theorem Turn.fresh
    (hturn : Turn shared later) {number : Nat}
    (hfresh : number ∈ later.outstanding ∨ later.starts ≤ number) :
    number ∈ shared.outstanding ∨ shared.starts ≤ number := by
  cases hturn with
  | quiet houtstanding _ _ hstarts => rwa [houtstanding, hstarts] at hfresh
  | begins _ houtstanding _ _ hstarts =>
      rw [houtstanding, hstarts, List.mem_singleton] at hfresh
      right
      omega
  | ends _ houtstanding _ _ hstarts =>
      rw [houtstanding, hstarts] at hfresh
      exact hfresh.imp_left (nomatch ·)

theorem mem_ended_entered_of_ok
    {found : Except SearchFailure SearchOutcome} {committed : Committed}
    (henter : (shared.scheduler.enter found).1 = .ok committed) :
    task.number ∈ (shared.entered before task after found).ended := by
  have hopen : shared.scheduler.isPoisoned = false := by
    rcases shared.scheduler.enter_cases found with ⟨_, hrefused⟩ | ⟨hopen, _⟩
    · rw [hrefused] at henter
      cases henter
    · exact hopen
  have hended : (shared.entered before task after found).ended =
      if shared.scheduler.isPoisoned then shared.ended else shared.ended ++ [task.number] := rfl
  rw [hended, hopen]
  simp

theorem Tally.commit
    (htally : Tally log shared) (hgood : shared.Good)
    (htasks : shared.tasks = before ++ task :: after) (hstage : task.stage = .searching)
    {found : Except SearchFailure SearchOutcome} {committed : Committed}
    (henter : (shared.scheduler.enter found).1 = .ok committed)
    (hlater : (shared.entered before task after found).Good) :
    Tally (log ++ [.commit task.number committed]) (shared.entered before task after found) := by
  have hperm := storing_entered_of_ok htasks hstage henter
  have hnumbers := hperm.map Prod.fst
  have hnone : ofRun task.number log = [] := by
    apply htally.fresh
    left
    rw [outstanding_of_outstanding htasks (by simp [Task.isOutstanding, hstage])]
    simp
  have hnew : task.number ∉ shared.storing.map Prod.fst := by
    intro hmem
    obtain ⟨⟨_, previous⟩, hearlier, rfl⟩ := List.mem_map.1 hmem
    have hcommitted := htally.storing _ previous hearlier
    rw [hnone] at hcommitted
    cases hcommitted
  constructor
  · intro number hfresh
    have hne : task.number ≠ number := by
      rintro rfl
      exact hlater.fresh_of_mem_ended (mem_ended_entered_of_ok henter) hfresh
    rw [ofRun_snoc_of_ne log (.commit _ _) hne]
    exact htally.fresh number ((hgood.turn_entered htasks hstage found).fresh hfresh)
  · rw [hnumbers.nodup_iff]
    exact htally.distinct.cons hnew
  · intro number current hmem
    rcases List.mem_cons.1 (hperm.mem_iff.1 hmem) with hsame | hearlier
    · cases hsame
      have hsnoc : ofRun task.number (log ++ [.commit task.number committed]) = _ :=
        ofRun_snoc_of_eq log _ rfl
      rw [hsnoc, hnone]
      rfl
    · have hne : task.number ≠ number := by
        rintro rfl
        exact hnew (List.mem_map_of_mem hearlier)
      rw [ofRun_snoc_of_ne log (.commit _ _) hne]
      exact htally.storing number current hearlier
  · intro number hover
    rw [hnumbers.mem_iff, List.map_cons, List.mem_cons, not_or] at hover
    rw [ofRun_snoc_of_ne log (.commit _ _) (Ne.symm hover.1)]
    exact htally.settled number hover.2

theorem Tally.store
    (htally : Tally log shared)
    (htasks : shared.tasks = before ++ task :: after) {committed : Committed}
    (hstage : task.stage = .storing committed)
    (hturn : Turn shared (shared.stored persistence before task after committed)) :
    Tally (log ++ [.store task.number committed])
      (shared.stored persistence before task after committed) := by
  have hperm := storing_stored persistence htasks hstage
  have hnumbers := hperm.map Prod.fst
  have hdistinct := hnumbers.nodup_iff.1 htally.distinct
  have hcommitted := htally.storing _ _ (hperm.mem_iff.2 List.mem_cons_self)
  constructor
  · intro number hfresh
    have hnone := htally.fresh number (hturn.fresh hfresh)
    have hne : task.number ≠ number := by
      rintro rfl
      rw [hnone] at hcommitted
      cases hcommitted
    rwa [ofRun_snoc_of_ne log (.store _ _) hne]
  · exact hdistinct.of_cons
  · intro number current hmem
    have hne : task.number ≠ number := by
      rintro rfl
      exact (List.nodup_cons.1 hdistinct).1 (List.mem_map.2 ⟨_, hmem, rfl⟩)
    rw [ofRun_snoc_of_ne log (.store _ _) hne]
    exact htally.storing number current (hperm.mem_iff.2 (List.mem_cons_of_mem _ hmem))
  · intro number hover
    by_cases hsame : task.number = number
    · rw [ofRun_snoc_of_eq log (.store _ _) hsame]
      subst number
      rw [hcommitted]
      exact .inr ⟨committed, rfl⟩
    · rw [ofRun_snoc_of_ne log (.store _ _) hsame]
      apply htally.settled
      rw [hnumbers.mem_iff, List.map_cons, List.mem_cons, not_or]
      exact ⟨Ne.symm hsame, hover⟩

theorem Logged.tally (hlogged : Logged finds persistence log shared) :
    Tally log shared := by
  induction hlogged with
  | new timetable directory => exact tally_new timetable directory
  | commit hlogged htasks hstage hfinds henter ih =>
      have hlater := hlogged.reachable.step (.enter htasks hstage hfinds)
      exact ih.commit hlogged.reachable.good htasks hstage henter hlater.good
  | store hlogged htasks hstage ih =>
      have hstep : Step finds persistence _ _ := .store htasks hstage
      exact ih.store htasks hstage (hstep.turn hlogged.reachable.good)
  | other hlogged hstep hstoring ih =>
      have hturn := hstep.turn hlogged.reachable.good
      refine ⟨fun number hfresh => ih.fresh number (hturn.fresh hfresh), ?_, ?_, ?_⟩
      · rw [hstoring]
        exact ih.distinct
      · rw [hstoring]
        exact ih.storing
      · rw [hstoring]
        exact ih.settled

/-! ## What is stored -/

theorem Step.directory_eq
    (hstep : Step finds persistence shared later) (hstoring : later.storing = shared.storing) :
    later.directory = shared.directory := by
  cases hstep with
  | mutate | start | refuse | enter | drop | poison => rfl
  | store htasks hstage =>
      have hlength := (storing_stored persistence htasks hstage).length_eq
      rw [hstoring, List.length_cons] at hlength
      omega

theorem directory_stored
    (shared : Shared) (before : List Task) (task : Task) (after : List Task)
    (committed : Committed) :
    (shared.stored persistence before task after committed).directory =
      (persistence committed.timetable shared.directory).2 := by
  unfold stored Scheduler.store
  dsimp only
  split <;> simp [*]

theorem Logged.read_directory
    {Stored : Type} {encode : Timetable → Stored} {read : Directory → Option Stored}
    (hreplaces : persistence.Replaces encode read)
    (hlogged : Logged finds persistence log shared) {committed : Committed}
    (hlast : (stores log).getLast? = some committed) :
    read shared.directory = some (encode committed.timetable) := by
  induction hlogged with
  | new => cases hlast
  | commit _ _ _ _ _ ih => exact ih (by simpa [stores, stored?] using hlast)
  | store =>
      obtain rfl : _ = committed := by simpa [stores, stored?] using hlast
      rw [directory_stored]
      exact hreplaces.read_saved _ _
  | other _ hstep hstoring ih => exact hstep.directory_eq hstoring ▸ ih hlast

/-- While no run is in between, the log is empty or ends with the only store of a run. -/
theorem Tally.ends_with_store
    (htally : Tally log shared) (hsettled : shared.storing = []) (hnonempty : log ≠ []) :
    ∃ earlier number committed meanwhile,
      log = earlier ++ .commit number committed :: (meanwhile ++ [.store number committed]) ∧
        Moment.store number committed ∉ earlier ++ .commit number committed :: meanwhile := by
  obtain ⟨init, last, rfl⟩ := (List.eq_nil_or_concat' log).resolve_left hnonempty
  have hsnoc := ofRun_snoc_of_eq init last rfl
  rcases htally.settled last.number (by simp [hsettled]) with hnone | ⟨committed, hboth⟩
  · rw [hsnoc] at hnone
    exact absurd hnone (List.concat_ne_nil _ _)
  · rw [hsnoc] at hboth
    generalize last.number = number at hboth
    obtain ⟨hinit, hlast⟩ :=
      List.append_inj' (show _ ++ [last] = [.commit number committed] ++ _ from hboth) rfl
    cases hlast
    have hcommitted : Moment.commit number committed ∈ init :=
      (mem_ofRun.1 (hinit.symm ▸ List.mem_singleton_self _)).1
    have hunstored : Moment.store number committed ∉ init := by
      intro hmem
      have hown : Moment.store number committed ∈ ofRun number init := mem_ofRun.2 ⟨hmem, rfl⟩
      rw [hinit] at hown
      simp at hown
    obtain ⟨earlier, meanwhile, rfl⟩ := List.append_of_mem hcommitted
    exact ⟨earlier, number, committed, meanwhile, by simp, hunstored⟩

/-- When no run is in between, every run that committed has stored what it committed, once.  The
log ends with a store, and that is what is stored; whatever was committed after it was committed
while its run had yet to store.  If the runs take turns, it was committed last. -/
theorem stored_timetable_is_of_the_last_run_to_store
    {Stored : Type} {encode : Timetable → Stored} {read : Directory → Option Stored}
    {finds : Run → Except SearchFailure SearchOutcome → Prop} {persistence : Persistence}
    (hreplaces : persistence.Replaces encode read) {shared : Shared}
    (hreach : shared.Reachable finds persistence) (hsettled : shared.storing = []) :
    (∃ log, Logged finds persistence log shared) ∧
    ∀ log, Logged finds persistence log shared → commits log ≠ [] →
      (∀ number, ofRun number log = [] ∨
        ∃ committed, ofRun number log = [.commit number committed, .store number committed]) ∧
      ∃ earlier number committed meanwhile,
        log = earlier ++ .commit number committed :: (meanwhile ++ [.store number committed]) ∧
        read shared.directory = some (encode committed.timetable) ∧
        (TakeTurns log → (commits log).getLast? = some committed) := by
  refine ⟨hreach.logged, fun log hlogged hcommits => ?_⟩
  have htally := hlogged.tally
  have hnonempty : log ≠ [] := by
    rintro rfl
    exact hcommits rfl
  obtain ⟨earlier, number, committed, meanwhile, rfl, hunstored⟩ :=
    htally.ends_with_store hsettled hnonempty
  have hstores : stores (earlier ++ .commit number committed :: (meanwhile ++
      [.store number committed])) = stores earlier ++ stores meanwhile ++ [committed] := by
    simp [stores, List.filterMap_cons, stored?]
  refine ⟨fun number => htally.settled number (by simp [hsettled]), earlier, number, committed,
    meanwhile, rfl, ?_, fun hturns => hturns.getLast?_commits hunstored⟩
  exact hlogged.read_directory hreplaces (hstores ▸ List.getLast?_concat)

/-! ## A store that is overtaken -/

open Live Chronicle

theorem toFile_timetable_replaces :
    (Persistence.toFile "timetable.json").Replaces (·.document.print)
      (·.read "timetable.json") := by
  apply Persistence.toFile_replaces
  constructor <;> decide +kernel

theorem Logged.performAll
    (hlogged : Logged finds persistence log shared) (mutations : List Mutation) :
    Logged finds persistence log (mutations.foldl performed shared) := by
  induction mutations generalizing shared with
  | nil => exact hlogged
  | cons mutation rest ih => exact ih (hlogged.other (.mutate shared mutation) rfl)

def firstCommit : Committed where
  outcome := oneTalkOutcome
  timetable := firstCommitted.scheduler.conference.timetable
  isStale := false

theorem firstCommitted_logged :
    Logged Run.Finds persistence [.commit 0 firstCommit] firstCommitted := by
  have hwaiting : Logged Run.Finds persistence [] oneTalkWaiting :=
    (Logged.new morning ∅).performAll _
  have hmake : oneTalkWaiting.scheduler.makeSchedule oneTalkRun.options true =
      (.ok oneTalkRun, (oneTalkWaiting.scheduler.makeSchedule oneTalkRun.options true).2) :=
    Prod.ext (by decide) rfl
  have hfinds : Run.Finds firstTask.run (.ok oneTalkOutcome) := finds_oneTalkRun
  exact (hwaiting.other (.start hmake) rfl).commit rfl rfl hfinds rfl

def firstStoring : Task := { firstTask with stage := .storing firstCommit, isArmed := false }

def bothTalksRun : Run where
  snapshot := secondTalkSnapshot
  options := { algorithm := .heuristic }

def secondTask : Task := { number := 1, run := bothTalksRun }

/-- A second talk comes in while the first run has yet to store. -/
def secondWaiting : Shared :=
  [.addDiscussion ⟨0⟩ "databases" true, .setInterest ⟨0⟩ ⟨1⟩ 40].foldl performed firstCommitted

def bothCommitted : Shared :=
  (secondWaiting.begun bothTalksRun
      (secondWaiting.scheduler.makeSchedule bothTalksRun.options true).2).entered
    [] secondTask [firstStoring] (.ok secondTalkOutcome)

def secondCommit : Committed where
  outcome := secondTalkOutcome
  timetable := bothCommitted.scheduler.conference.timetable
  isStale := false

def secondStoring : Task := { secondTask with stage := .storing secondCommit, isArmed := false }

theorem bothCommitted_logged :
    Logged Run.Finds persistence [.commit 0 firstCommit, .commit 1 secondCommit]
      bothCommitted := by
  have hwaiting : Logged Run.Finds persistence [.commit 0 firstCommit] secondWaiting :=
    firstCommitted_logged.performAll _
  have hmake : secondWaiting.scheduler.makeSchedule bothTalksRun.options true =
      (.ok bothTalksRun, (secondWaiting.scheduler.makeSchedule bothTalksRun.options true).2) :=
    Prod.ext (by decide) rfl
  have hsearch := (lockedMeanwhile_reachable 0).good.search_heuristic_eq List.mem_cons_self {}
    (bothTalksRun.options.stream 0)
  rw [greedyOutcome_secondTalkSnapshot] at hsearch
  have hfinds : Run.Finds secondTask.run (.ok secondTalkOutcome) :=
    hsearch ▸ bothTalksRun.finds_search {} 0
  exact (hwaiting.other (.start hmake) rfl).commit rfl rfl hfinds rfl

/-- The second run commits and stores while the first one has yet to store. -/
theorem overtaken_logged :
    ∃ shared, Logged Run.Finds (.toFile "timetable.json")
        [.commit 0 firstCommit, .commit 1 secondCommit, .store 1 secondCommit,
          .store 0 firstCommit] shared ∧
      shared.storing = [] ∧ shared.scheduler.timetable = .ok secondCommit.timetable := by
  have hsecond : bothCommitted.tasks = [] ++ secondStoring :: [firstStoring] := rfl
  have hstored : Logged Run.Finds (.toFile "timetable.json")
      [.commit 0 firstCommit, .commit 1 secondCommit, .store 1 secondCommit] _ :=
    bothCommitted_logged.store hsecond rfl
  have hfirst : (bothCommitted.stored (.toFile "timetable.json") [] secondStoring [firstStoring]
      secondCommit).tasks = [{ secondStoring with stage := .returning }] ++ firstStoring :: [] :=
    rfl
  exact ⟨_, hstored.store hfirst rfl, rfl, rfl⟩

/-- Alone, the first run has its timetable stored; overtaken by the second one, too. -/
theorem stored_timetable_alone_and_overtaken :
    (∃ log shared, Logged Run.Finds (.toFile "timetable.json") log shared ∧
      shared.storing = [] ∧ TakeTurns log ∧ (commits log).getLast? = some firstCommit ∧
        shared.directory.read "timetable.json" = some firstCommit.timetable.document.print) ∧
    ∃ log shared, Logged Run.Finds (.toFile "timetable.json") log shared ∧
      shared.storing = [] ∧ ¬TakeTurns log ∧ (commits log).getLast? = some secondCommit ∧
        shared.directory.read "timetable.json" = some firstCommit.timetable.document.print := by
  constructor
  · have htasks : firstCommitted.tasks = [] ++ firstStoring :: [] := rfl
    have hstored : Logged Run.Finds (.toFile "timetable.json")
        [.commit 0 firstCommit, .store 0 firstCommit] _ := firstCommitted_logged.store htasks rfl
    have hturns : TakeTurns [.commit 0 firstCommit, .store 0 firstCommit] := by
      intro earlier number current later hlog other previous hmem
      rcases earlier with _ | ⟨_, _ | ⟨_, _⟩⟩ <;> simp at hlog hmem
    obtain ⟨_, hlogs⟩ := stored_timetable_is_of_the_last_run_to_store toFile_timetable_replaces
      hstored.reachable rfl
    obtain ⟨_, _, _, committed, _, _, hread, hlast⟩ := hlogs _ hstored (by decide)
    obtain rfl : firstCommit = committed := Option.some.inj (hlast hturns)
    exact ⟨_, _, hstored, rfl, hturns, rfl, hread⟩
  · obtain ⟨shared, hlogged, hsettled, _⟩ := overtaken_logged
    have hovertaken : ¬TakeTurns [.commit 0 firstCommit, .commit 1 secondCommit,
        .store 1 secondCommit, .store 0 firstCommit] := by
      intro hturns
      have hstored := hturns [.commit 0 firstCommit] 1 secondCommit _ rfl 0 firstCommit
        List.mem_cons_self
      simp at hstored
    obtain ⟨_, hlogs⟩ := stored_timetable_is_of_the_last_run_to_store toFile_timetable_replaces
      hlogged.reachable hsettled
    obtain ⟨_, earlier, number, committed, meanwhile, hlog, hread, _⟩ :=
      hlogs _ hlogged (by decide)
    have hlast := congrArg List.getLast? hlog
    rw [← List.cons_append, ← List.append_assoc, List.getLast?_concat] at hlast
    obtain ⟨_, rfl⟩ := Moment.store.inj (Option.some.inj hlast)
    exact ⟨_, shared, hlogged, hsettled, hovertaken, rfl, hread⟩

/-- The second run commits last, and the timetable of the first one is stored. -/
theorem later_commit_is_overwritten :
    (Persistence.toFile "timetable.json").Replaces (·.document.print)
      (·.read "timetable.json") ∧
    ∃ shared, Logged Run.Finds (.toFile "timetable.json")
        [.commit 0 firstCommit, .commit 1 secondCommit, .store 1 secondCommit,
          .store 0 firstCommit] shared ∧
      shared.storing = [] ∧ shared.scheduler.timetable = .ok secondCommit.timetable ∧
      shared.directory.read "timetable.json" = some firstCommit.timetable.document.print ∧
      firstCommit.timetable.document.print ≠ secondCommit.timetable.document.print := by
  obtain ⟨shared, hlogged, hsettled, hlast⟩ := overtaken_logged
  refine ⟨toFile_timetable_replaces, shared, hlogged, hsettled, hlast, ?_, by decide +kernel⟩
  exact hlogged.read_directory toFile_timetable_replaces rfl

end Shared

end Unconference
