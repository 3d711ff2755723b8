/-!
# Tables of characters

A set of characters is a list of ranges of code points, both ends included.

* `inRanges`: membership, which is that of some range.
-/

namespace LinkProbe.Text

/-- Whether the character lies in one of the ranges. -/
def inRanges (ranges : List (Nat × Nat)) (c : Char) : Bool :=
  ranges.any fun r => r.1 ≤ c.toNat && c.toNat ≤ r.2

end LinkProbe.Text
