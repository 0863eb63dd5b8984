/-!
# Sets of code points

A set of code points is given by the points at which membership flips, in ascending order.
-/

namespace PathKeeper.Text

/-- Membership in the set that begins at the first flip, ends before the second, and so on. -/
def inRanges (flips : List Nat) (n : Nat) : Bool :=
  (flips.takeWhile (· ≤ n)).length % 2 == 1

@[simp] theorem inRanges_nil (n : Nat) : inRanges [] n = false := rfl

end PathKeeper.Text
