import SheetFormula.Word

/-!
# A source of numbers

A linear congruential generator of words of 64 bits, of each of which the leading 53 bits are
drawn. It stands in for the source that the host has, of which nothing is assumed: environments are
given any source.
-/

namespace SheetFormula

/-- The state of the generator. -/
structure Generator where
  word : Nat

namespace Generator

/-- The next number, and the state after it. -/
def draw (g : Generator) : Nat × Generator :=
  let word := (g.word * 6364136223846793005 + 1442695040888963407) % Word.limit
  (word / 2048, ⟨word⟩)

end Generator

end SheetFormula
