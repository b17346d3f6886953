/-!
# Identifiers

Users and discussions are numbered from zero in the order in which they join.  Both kinds of
number are types of their own, so one is never taken for the other; what the two have in common
is that an identifier is determined by its number.
-/

namespace Unconference

/-- A type whose values are told apart by a number. -/
class Identifier (ι : Type) where
  number : ι → Nat
  eq_of_number_eq : ∀ {a b : ι}, number a = number b → a = b

structure UserId where
  number : Nat
deriving DecidableEq

structure DiscussionId where
  number : Nat
deriving DecidableEq

instance : Identifier UserId where
  number := UserId.number
  eq_of_number_eq {a b} h := by cases a; cases b; simpa using h

instance : Identifier DiscussionId where
  number := DiscussionId.number
  eq_of_number_eq {a b} h := by cases a; cases b; simpa using h

def UserId.text (user : UserId) : String := "u" ++ toString user.number

def DiscussionId.text (discussion : DiscussionId) : String := "d" ++ toString discussion.number

end Unconference
