import MonkeyScan.Text.Basic

/-!
# `MonkeyScan.Text.CodeRanges`: sets of characters as ranges of code points

A character class of the Unicode standard is given as the ascending list of
its maximal ranges. Membership is a plain search, so that a closed question
about one character can be decided by evaluation.
-/

set_option autoImplicit false

namespace MonkeyScan.Text

/-- Ascending, disjoint ranges of code points, both ends included. -/
abbrev CodeRanges := List (Nat × Nat)

/-- Whether some range holds the code point of `c`. -/
def CodeRanges.has (ranges : CodeRanges) (c : Char) : Bool :=
  ranges.any fun range => decide (range.1 ≤ c.toNat) && decide (c.toNat ≤ range.2)

end MonkeyScan.Text
