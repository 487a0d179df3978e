/-!
# Words of 64 bits

The ranges of the machine words in which counts and positions are held.
-/

namespace SheetFormula

namespace Word

/-- The natural numbers that an unsigned word does not hold begin at `2⁶⁴`. -/
def limit : Nat := 18446744073709551616

/-- The least integer that a signed word holds, `-2⁶³`. -/
def least : Int := -9223372036854775808

/-- The greatest integer that a signed word holds, `2⁶³ - 1`. -/
def greatest : Int := 9223372036854775807

/-- The integer of a signed word that is nearest to an integer. -/
def saturated (n : Int) : Int := max least (min greatest n)

end Word

end SheetFormula
