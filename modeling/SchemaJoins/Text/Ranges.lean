/-! # Ranges of characters -/

namespace SchemaJoins.Text

def inRanges (ranges : List (Nat × Nat)) (n : Nat) : Bool :=
  ranges.any fun (lo, hi) => decide (lo ≤ n) && decide (n ≤ hi)

end SchemaJoins.Text
