/-!
Contract: sets of code points given as lists of inclusive ranges.

Owns:

- `CodeRanges.contains`, the membership test the character tables share.
-/

namespace Annotations.Text

/-- A set of code points, as inclusive ranges. -/
abbrev CodeRanges := Array (Nat × Nat)

def CodeRanges.contains (ranges : CodeRanges) (code : Nat) : Bool :=
  ranges.any fun range => range.1 ≤ code && code ≤ range.2

end Annotations.Text
