/-!
# Ranges of code points

Properties of characters are given as ascending lists of closed ranges. A character has the
property when its code point lies in one of them.
-/

namespace FormulaTex
namespace Text

/-- Closed ranges of code points, first and last member of each. -/
abbrev Ranges := List (Nat × Nat)

namespace Ranges

def contains (ranges : Ranges) (code : Nat) : Bool :=
  ranges.any fun (first, last) => decide (first ≤ code) && decide (code ≤ last)

end Ranges

end Text
end FormulaTex
