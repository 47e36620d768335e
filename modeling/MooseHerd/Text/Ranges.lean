/-! Sets of characters, written as ascending ranges of code points. All tables are those of
Unicode 17.0. -/

namespace MooseHerd.Text

/-- Ranges of code points, both ends included. -/
abbrev CodeRanges := List (Nat × Nat)

def CodeRanges.contains (ranges : CodeRanges) (c : Char) : Bool :=
  ranges.any fun (first, last) => first ≤ c.toNat && c.toNat ≤ last

end MooseHerd.Text
