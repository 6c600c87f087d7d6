/-!
# Sets of characters by their bounds

A set of codes is written as the ascending sequence of the codes at which membership changes. A code
is a member when an odd number of bounds lies at or below it, which a halving search counts.
-/

namespace LogRelay.Text

/-- A set of codes, as the ascending codes at which membership changes. -/
structure Ranges where
  bounds : Array Nat

namespace Ranges

/-- How many of the bounds in a part of the sequence lie at or below a code, counted with the bounds
before that part. -/
def countUpTo (ranges : Ranges) (code : Nat) : (width first : Nat) → Nat
  | 0, first => first
  | width + 1, first =>
      let middle := first + width / 2
      if ranges.bounds.getD middle 0 ≤ code then
        countUpTo ranges code (width - width / 2) (middle + 1)
      else
        countUpTo ranges code (width / 2) first
termination_by width => width
decreasing_by
  · exact Nat.lt_succ_of_le (Nat.sub_le width (width / 2))
  · exact Nat.lt_succ_of_le (Nat.div_le_self width 2)

/-- Whether a code is in the set. -/
def contains (ranges : Ranges) (code : Nat) : Bool :=
  ranges.countUpTo code ranges.bounds.size 0 % 2 == 1

end Ranges

end LogRelay.Text
