/-!
# Sets of scalars by their boundaries

A set of scalar values is written as the increasing list of the places where membership changes:
the first entry opens a run, the second closes it (exclusively), and so on. The sets that are written
so are those of Unicode 16.0.
-/

namespace PatternLoom.Unicode

set_option autoImplicit false

/-- A scalar lies in the set when an odd number of boundaries is at or below it. -/
def withinBoundaries (boundaries : Array Nat) (c : Char) : Bool :=
  (boundaries.foldl (fun n b => if b ≤ c.toNat then n + 1 else n) 0) % 2 == 1

end PatternLoom.Unicode
