/-!
# Code points of characters

Not every number is the code point of a character: the surrogates and what lies above the last
plane are none.
-/

namespace SheetFormula

namespace Unicode

/-- The character with the given code point, if there is one. -/
def charOfCode? (code : Nat) : Option Char :=
  if h : code.isValidChar then some (Char.ofNatAux code h) else none

end Unicode

end SheetFormula
