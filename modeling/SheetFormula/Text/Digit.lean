/-!
# Digits

The decimal and hexadecimal digits of the basic alphabet, with the values of the latter.
-/

namespace SheetFormula

namespace Text

/-- Whether the character is one of the digits from 0 to 9. -/
def isDigit (c : Char) : Bool := '0' ≤ c && c ≤ '9'

/-- The value of a hexadecimal digit. -/
def hexValue? (c : Char) : Option Nat :=
  if isDigit c then some (c.toNat - 48)
  else if 'a' ≤ c && c ≤ 'f' then some (c.toNat - 87)
  else if 'A' ≤ c && c ≤ 'F' then some (c.toNat - 55)
  else none

end Text

end SheetFormula
