import Unconference.Refusal

/-!
# Interest

How much a user wants to attend a discussion, in points from 0 to 100.  No points means the same
as never having said anything.
-/

namespace Unconference

structure Interest where
  points : Nat
  le_max : points ≤ 100
deriving DecidableEq

namespace Interest

def none : Interest := ⟨0, by decide⟩

def most : Interest := ⟨100, by decide⟩

def isNone (interest : Interest) : Bool := interest.points == 0

def isMost (interest : Interest) : Bool := interest.points == most.points

/-- Reads a number of points; a number outside of the scale is refused. -/
def ofInt (value : Int) : Except Refusal Interest :=
  if h : 0 ≤ value ∧ value ≤ 100 then .ok ⟨value.toNat, by omega⟩
  else .error (.invalidInterest value)

end Interest

end Unconference
