/-!
# Totals

The total of a list of natural numbers, which scores are made of.
-/

namespace Unconference

def total : List Nat → Nat
  | [] => 0
  | number :: rest => number + total rest

@[simp] theorem total_nil : total [] = 0 := rfl

@[simp] theorem total_cons (number : Nat) (rest : List Nat) :
    total (number :: rest) = number + total rest := rfl

@[simp] theorem total_append (left right : List Nat) :
    total (left ++ right) = total left + total right := by
  induction left with
  | nil => simp
  | cons number rest ih => simp [ih, Nat.add_assoc]

end Unconference
