/-!
# Ranges of code points

A class of characters is a list of ranges of their code points, in ascending order.
-/

set_option autoImplicit false

namespace SignedTx

/-- Ranges of code points, both ends included. -/
abbrev Ranges := List (Nat × Nat)

/-- Whether a character is in one of the ranges. -/
def Ranges.holds (ranges : Ranges) (c : Char) : Bool :=
  ranges.any fun (first, last) => decide (first ≤ c.toNat) && decide (c.toNat ≤ last)

end SignedTx
