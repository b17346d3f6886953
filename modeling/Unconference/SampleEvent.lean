import Unconference.Scheduler

/-!
# A sample event

A small event to schedule: eight people, seven discussions and what they want.  The last discussion
is moderated at first and has to happen in the last slot.
-/

namespace Unconference.SampleEvent

def people : List String :=
  ["Alice", "Bob", "Carol", "Dave", "Erin", "Frank", "Grace", "Heidi"]

/-- Owner and title of each discussion, and whether it is public from the start. -/
def discussions : List (Nat × String × Bool) := [
  (0, "Borrow checker war stories", true),
  (1, "Async in production", true),
  (2, "Writing parsers by hand", true),
  (3, "Embedded without an allocator", true),
  (4, "Property testing", true),
  (5, "Build times", true),
  (6, "Unconference retro", false)]

/-- Person, discussion and points. -/
def interests : List (Nat × Nat × Int) := [
  (0, 0, 100), (0, 1, 60), (0, 4, 30),
  (1, 1, 100), (1, 5, 80),
  (2, 2, 90), (2, 0, 40), (2, 3, 20),
  (3, 3, 100), (3, 2, 70),
  (4, 4, 100), (4, 0, 50),
  (5, 5, 90), (5, 1, 90),
  (6, 0, 70), (6, 2, 70), (6, 4, 10),
  (7, 3, 40), (7, 5, 60), (7, 1, 30),
  (0, 6, 50), (7, 6, 80)]

def retrospective : DiscussionId := ⟨6⟩

/-- The only slot for the retrospective. -/
def lastSlot : SlotSet := SlotSet.ofList [5]

/-- A sequence of steps of a scheduler, up to the first that fails. -/
abbrev Steps (α : Type) := ExceptT SchedulerError (StateM Scheduler) α

def step {α : Type} (operation : Scheduler → Except SchedulerError α × Scheduler) : Steps α :=
  ExceptT.mk operation

def enter : Steps Unit := do
  for name in people do
    let _ ← step (·.addUser name)
  for (owner, title, isPublic) in discussions do
    let _ ← step (·.addDiscussion ⟨owner⟩ title isPublic)
  for (person, discussion, points) in interests do
    step (·.setInterest ⟨person⟩ ⟨discussion⟩ points)
  step (·.setPossibleSlots retrospective lastSlot)
  step (·.setPublic retrospective true)

end Unconference.SampleEvent
