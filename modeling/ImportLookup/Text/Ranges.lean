/-!
# Sets of characters as ranges

A class of characters that a standard lists is held as the increasing list of its ranges, ends
included.
-/

namespace ImportLookup

/-- A set of code points, as increasing ranges with both ends in the set. -/
abbrev Ranges := List (Nat × Nat)

/-- Whether a character lies in one of the ranges. -/
def Ranges.holds (ranges : Ranges) (c : Char) : Bool :=
  ranges.any fun r => r.1 ≤ c.toNat && c.toNat ≤ r.2

end ImportLookup
