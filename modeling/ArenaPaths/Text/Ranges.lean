/-!
# Ranges of code points

A property of characters is given by a table: ranges of code points, both ends included,
ascending and apart. The tables of this library are those of Unicode 17.
-/

namespace ArenaPaths.Text

/-- Whether a code point lies in one of the given ranges. -/
def inRanges (ranges : List (Nat × Nat)) (point : Nat) : Bool :=
  ranges.any fun range => range.1 ≤ point && point ≤ range.2

end ArenaPaths.Text
