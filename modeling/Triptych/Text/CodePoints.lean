/-!
# Sets of code points

A large set of characters is kept as the ascending list of the code points at
which membership changes: it starts outside, and each bound flips it.  So a code
point is in the set exactly if an odd number of bounds is at most that point.
-/

namespace Triptych.Text

/-- A set of code points, given by the ascending points where membership flips. -/
structure CodePoints where
  bounds : Array Nat

namespace CodePoints

/-- The number of bounds at most `n`, when those below `lo` are and those from
`hi` on are not. -/
def rankBetween (set : CodePoints) (n lo hi : Nat) : Nat :=
  if lo < hi then
    let mid := (lo + hi) / 2
    if set.bounds.getD mid 0 ≤ n then rankBetween set n (mid + 1) hi
    else rankBetween set n lo mid
  else lo
termination_by hi - lo

/-- Membership of a code point. -/
def containsPoint (set : CodePoints) (n : Nat) : Bool :=
  set.rankBetween n 0 set.bounds.size % 2 == 1

/-- Membership of a character. -/
def contains (set : CodePoints) (c : Char) : Bool := set.containsPoint c.toNat

end CodePoints

end Triptych.Text
