/-!
# Ranges of characters

A class of characters is given by the closed ranges of code points that make it up.
-/

namespace MediaNegotiation.Text

/-- Whether a character lies in one of the closed ranges of code points. -/
def inRanges (ranges : List (Nat × Nat)) (c : Char) : Bool :=
  ranges.any fun r => r.1 ≤ c.toNat && c.toNat ≤ r.2

end MediaNegotiation.Text
