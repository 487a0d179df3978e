/-!
# Sets of characters given by ranges

A property of characters is held as the list of the ranges of code points that have it, in
increasing order and without overlap. Membership stops at the first range that begins above the
character.
-/

namespace SheetFormula

namespace Unicode

/-- Whether a code point lies in one of the ranges, which are in increasing order. -/
def inRanges : List (Nat × Nat) → Nat → Bool
  | [], _ => false
  | (first, last) :: ranges, code =>
    if code < first then false else code ≤ last || inRanges ranges code

end Unicode

end SheetFormula
