/-!
# Sets of characters given by ranges

Character properties are stored as an increasing array of disjoint ranges of
code points, both ends included, and are looked up by bisection.
-/

namespace Compliance.Text

/-- An increasing array of disjoint ranges of code points. -/
abbrev Ranges := Array (Nat × Nat)

namespace Ranges

/-- The number of ranges that begin at or before `code` among those between `low` and
`low + width`, added to `low`. -/
private def countBelow (ranges : Ranges) (code : Nat) : (fuel low width : Nat) → Nat
  | 0, low, _ => low
  | fuel + 1, low, width =>
    if width = 0 then low
    else
      let half := width / 2
      let start := ((ranges[low + half]?).map (·.1)).getD (code + 1)
      if start ≤ code then countBelow ranges code fuel (low + half + 1) (width - half - 1)
      else countBelow ranges code fuel low half

/-- Whether the code point lies in one of the ranges: only the last range that begins at or
before it can hold it. -/
def holds (ranges : Ranges) (code : Nat) : Bool :=
  match countBelow ranges code ranges.size 0 ranges.size with
  | 0 => false
  | below + 1 => ((ranges[below]?).map fun range => decide (code ≤ range.2)).getD false

end Ranges

end Compliance.Text
