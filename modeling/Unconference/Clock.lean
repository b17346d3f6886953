/-!
# Clocks

The budget of a search is measured by a clock whose readings are `tick` milliseconds apart.  Time
passes from each reading to the next, so a budget is always used up in the end.
-/

namespace Unconference

structure Clock where
  tick : Nat := 1
  tick_pos : 0 < tick := by decide

end Unconference
