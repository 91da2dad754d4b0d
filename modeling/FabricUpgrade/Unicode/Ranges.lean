/-!
# Ranges of characters

A property of characters is kept as the ranges of the numbers of those that have it.
-/

namespace FabricUpgrade.Unicode

/-- Ranges of the numbers of characters, first and last, in ascending order. -/
abbrev Ranges := List (Nat × Nat)

namespace Ranges

/-- Whether a character lies in one of the ranges. -/
def contains (ranges : Ranges) (character : Char) : Bool :=
  ranges.any fun range => range.1 ≤ character.toNat && character.toNat ≤ range.2

end Ranges

end FabricUpgrade.Unicode
