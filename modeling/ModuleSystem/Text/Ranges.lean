/-!
# Sets of characters as sorted boundaries

A set of code points is stored as the increasing list of the points where membership changes: the
first boundary opens a range, the second closes it, and so on. A point is a member when an odd number
of boundaries lies at or below it.
-/

namespace ModuleSystem.Text

/-- How many boundaries at positions `low` to `high` are at most `point`, plus `low`: a search by
halving, for boundaries in increasing order. -/
def boundaryRank (bounds : Array Nat) (point low high : Nat) : Nat :=
  if low < high then
    let middle := (low + high) / 2
    if bounds.getD middle 0 ≤ point then boundaryRank bounds point (middle + 1) high
    else boundaryRank bounds point low middle
  else low
termination_by high - low
decreasing_by all_goals omega

/-- Whether a point lies in one of the ranges that the boundaries open and close. -/
def inRanges (bounds : Array Nat) (point : Nat) : Bool :=
  boundaryRank bounds point 0 bounds.size % 2 == 1

end ModuleSystem.Text
