/-!
# Ranges of Characters

A property of characters is given as the ranges of code points that have it, in
increasing order. Tables of this kind stand in modules of their own, one for
each use.

## Main definitions

* `CodeRanges`: Ranges of code points, ends included.
* `CodeRanges.has`: Whether a character lies in one of them.
-/

namespace DocumentLink

namespace Text

/-- Ranges of code points, each with its first and its last. -/
abbrev CodeRanges := List (Nat × Nat)

/-- Whether a character lies in one of the ranges. -/
def CodeRanges.has (ranges : CodeRanges) (c : Char) : Bool :=
  ranges.any fun range => range.1 ≤ c.toNat && c.toNat ≤ range.2

end Text

end DocumentLink
