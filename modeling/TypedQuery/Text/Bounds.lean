/-!
Sets of characters as bounds: the ascending code points at which membership changes. A character
belongs to the set when an odd number of bounds is at or below it.
-/

namespace TypedQuery.Text

/-- The number of bounds at or below `c`, found by halving `[low, low + width)`. -/
def boundsBelow (bounds : Array Nat) (c : Nat) (low width : Nat) : Nat :=
  if width = 0 then low
  else
    let middle := low + width / 2
    if bounds[middle]?.any (· ≤ c) then boundsBelow bounds c (middle + 1) (width - width / 2 - 1)
    else boundsBelow bounds c low (width / 2)
termination_by width
decreasing_by all_goals omega

/-- Whether a character belongs to the set with the given bounds. -/
def within (bounds : Array Nat) (c : Char) : Bool :=
  boundsBelow bounds c.toNat 0 bounds.size % 2 == 1

end TypedQuery.Text
