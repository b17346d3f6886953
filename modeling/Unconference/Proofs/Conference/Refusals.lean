import Unconference.Proofs.Conference.Live
import Unconference.Proofs.Ledger.Requests

/-!
# Refused changes

A change of the data that is refused leaves the whole conference as it was, flags included.  One
that is granted marks the conference as modified.
-/

namespace Unconference

theorem Ledger.Answered.eq_of_error
    {ledger : Ledger} {request : Ledger.Request} {α : Type} {granted : α → Ledger.Reply}
    {result : Except Refusal α × Ledger} {refusal : Refusal}
    (hanswered : ledger.Answered request (.ofResult granted result.1) result.2)
    (hrefused : result.1 = .error refusal) : result.2 = ledger := by
  rw [hrefused] at hanswered
  exact hanswered.eq_of_refused

namespace Conference

variable {conference : Conference}

/-- A change with its answer, of which only success matters. -/
def attempt (conference : Conference) : Mutation → Except Refusal Unit × Conference
  | .addUser name => (.ok (), (conference.addUser name).2)
  | .addDiscussion owner title isPublic =>
    (conference.addDiscussion owner title isPublic).map (Except.map fun _ => ()) id
  | .setInterest user discussion value => conference.setInterest user discussion value
  | .setPublic discussion isPublic => conference.setPublic discussion isPublic
  | .setPossibleSlots discussion possibleSlots =>
    conference.setPossibleSlots discussion possibleSlots
  | .setLockedSlots locked => (.ok (), conference.setLockedSlots locked)

theorem attempt_snd (conference : Conference) (mutation : Mutation) :
    (conference.attempt mutation).2 = conference.mutated mutation := by
  cases mutation <;> rfl

/-- How a change comes out: refused and without a trace, or granted and marked as a change. -/
def Settles {α : Type} (conference : Conference) (outcome : Except Refusal α × Conference) :
    Prop :=
  (∃ refusal, outcome = (.error refusal, conference)) ∨
    ∃ value, outcome.1 = .ok value ∧ outcome.2.state = conference.state.modified

theorem settles_withLedger
    {α : Type} {request : Ledger.Request} {granted : α → Ledger.Reply}
    {result : Except Refusal α × Ledger}
    (hanswered : conference.ledger.Answered request (.ofResult granted result.1) result.2) :
    conference.Settles (conference.withLedger result) := by
  obtain ⟨answer, ledger⟩ := result
  cases answer with
  | error refusal =>
      obtain rfl : ledger = conference.ledger := hanswered.eq_of_error rfl
      exact .inl ⟨refusal, rfl⟩
  | ok value => exact .inr ⟨value, rfl, rfl⟩

theorem Settles.map
    {α β : Type} {outcome : Except Refusal α × Conference} (hsettles : conference.Settles outcome)
    (read : α → β) : conference.Settles (outcome.map (Except.map read) id) := by
  rcases hsettles with ⟨refusal, rfl⟩ | ⟨value, hgranted, hstate⟩
  · exact .inl ⟨refusal, rfl⟩
  · exact .inr ⟨read value, by rw [Prod.map_fst, hgranted]; rfl, hstate⟩

theorem settles_attempt (conference : Conference) (mutation : Mutation) :
    conference.Settles (conference.attempt mutation) := by
  have hledger := conference.ledger.answered
  cases mutation with
  | addUser name => exact .inr ⟨(), rfl, rfl⟩
  | addDiscussion owner title isPublic =>
      have hsettles : conference.Settles (conference.addDiscussion owner title isPublic) :=
        settles_withLedger (hledger (.addDiscussion ..))
      exact hsettles.map _
  | setInterest user discussion value =>
      exact settles_withLedger (hledger (.setInterest user discussion value))
  | setPublic discussion isPublic =>
      exact settles_withLedger (hledger (.setPublic discussion isPublic))
  | setPossibleSlots discussion possibleSlots =>
      exact settles_withLedger (hledger (.setPossibleSlots discussion possibleSlots))
  | setLockedSlots locked => exact .inr ⟨(), rfl, rfl⟩

end Conference

end Unconference
