/-! Membership of a code point in a property given by a table of ranges. -/

namespace Formulary.Unicode

/-- The code point lies in one of the closed ranges. -/
def inRanges (ranges : List (Nat × Nat)) (code : Nat) : Bool :=
  ranges.any fun range => range.1 ≤ code && code ≤ range.2

end Formulary.Unicode
