/-!
# Text/CodeRanges — sets of characters as ranges

A large set of characters is given by the ranges of its code points, first and last of each.
-/

namespace Stockroom.Text

/-- Ranges of code points, the first and the last of each included. -/
abbrev CodeRanges := List (Nat × Nat)

namespace CodeRanges

/-- The character lies in one of the ranges. -/
def has (ranges : CodeRanges) (c : Char) : Bool :=
  ranges.any fun (first, last) => first ≤ c.toNat && c.toNat ≤ last

end CodeRanges

end Stockroom.Text
