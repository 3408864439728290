/-!
# Classes of characters

A class of characters is a list of code point ranges with both ends included.
-/

namespace Agreement.Text

/-- Code point ranges, both ends included. -/
abbrev CodePoints := List (Nat × Nat)

/-- Whether a character lies in one of the ranges. -/
def CodePoints.has (ranges : CodePoints) (c : Char) : Bool :=
  ranges.any fun r => r.1 ≤ c.toNat && c.toNat ≤ r.2

end Agreement.Text
