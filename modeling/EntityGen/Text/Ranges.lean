/-! Sets of characters given as ranges of code points. -/

namespace EntityGen.Text

/-- The ranges include both of their ends. -/
def inRanges (ranges : List (Nat × Nat)) (c : Char) : Bool :=
  ranges.any fun r => r.1 ≤ c.toNat && c.toNat ≤ r.2

end EntityGen.Text
