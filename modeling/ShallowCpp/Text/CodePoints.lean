/-!
# Sets of code points

A Unicode property is held as its maximal ranges of code points in ascending order. Membership is
decided by bisection: each step halves the stretch of ranges in which the code point can still lie,
so a table of a thousand ranges is searched in ten steps.
-/

set_option autoImplicit false

namespace ShallowCpp.Text

/-- A set of code points, given by closed ranges that ascend and do not touch. -/
structure CodePoints where
  /-- The first and the last code point of each range. -/
  ranges : Array (Nat × Nat)

namespace CodePoints

/-- Looks for `point` among the ranges with an index from `low` up to, but not including, `high`. As
many `steps` suffice as it takes to halve the stretch down to nothing. -/
def bisect (ranges : Array (Nat × Nat)) (point : Nat) : (steps low high : Nat) → Bool
  | 0, _, _ => false
  | steps + 1, low, high =>
    if low < high then
      let middle := (low + high) / 2
      match ranges[middle]? with
      | none => false
      | some (first, last) =>
        if point < first then bisect ranges point steps low middle
        else if last < point then bisect ranges point steps (middle + 1) high
        else true
    else false

/-- Whether the character belongs to the set. -/
def contains (points : CodePoints) (char : Char) : Bool :=
  bisect points.ranges char.toNat (points.ranges.size.log2 + 1) 0 points.ranges.size

end CodePoints

end ShallowCpp.Text
