import SheetFormula.Binary64.Basic
import SheetFormula.Word

/-!
# Arithmetic on numbers

Sum, difference, product, quotient and remainder of the numbers of a formula. Between finite
numbers the exact result is rounded once; the rules for zeros, infinities and not-a-number are
those of the interchange format. The remainder is exact and takes the sign of the dividend.
-/

namespace SheetFormula

-- Powers are those of the core library, whatever else is imported.
attribute [local instance (2000)] instPowNat

namespace Binary64

/-! ### Signs -/

/-- The number of opposite sign. -/
def neg : Binary64 → Binary64
  | .nan => .nan
  | .infinite negative => .infinite (!negative)
  | .finite negative units h => .finite (!negative) units h

/-- The number without its sign. -/
def abs : Binary64 → Binary64
  | .nan => .nan
  | .infinite _ => .infinite false
  | .finite _ units h => .finite false units h

/-- One, zero or minus one, by the sign of the number; zeros and not-a-number give zero. -/
def signum (x : Binary64) : Binary64 :=
  match x.rank with
  | none => 0
  | some r => if r < 0 then one true else if 0 < r then one false else 0

/-! ### The four operations and the remainder -/

/-- A whole number of units under its sign, rounded; `zeroSign` is the sign of a zero. -/
def ofSignedUnits (units : Int) (zeroSign : Bool) : Binary64 :=
  ofUnitRatio (if units = 0 then zeroSign else units < 0) units.natAbs 1

/-- A count of units under a sign, as an integer. -/
def signed (negative : Bool) (units : Nat) : Int := if negative then -units else units

/-- The sum. A sum of zero is negative only if both summands are. -/
def add : Binary64 → Binary64 → Binary64
  | .nan, _ => .nan
  | _, .nan => .nan
  | .infinite a, .infinite b => if a = b then .infinite a else .nan
  | .infinite a, .finite .. => .infinite a
  | .finite .., .infinite b => .infinite b
  | .finite a u _, .finite b v _ => ofSignedUnits (signed a u + signed b v) (a && b)

/-- The difference. -/
def sub (x y : Binary64) : Binary64 := x.add y.neg

/-- The product. Zero times infinity is not-a-number. -/
def mul : Binary64 → Binary64 → Binary64
  | .nan, _ => .nan
  | _, .nan => .nan
  | .infinite a, .infinite b => .infinite (a ^^ b)
  | .infinite a, .finite b v _ => if v = 0 then .nan else .infinite (a ^^ b)
  | .finite a u _, .infinite b => if u = 0 then .nan else .infinite (a ^^ b)
  | .finite a u _, .finite b v _ => ofUnitRatio (a ^^ b) (u * v) unitsPerOne

/-- The quotient. A nonzero number over zero is infinite, zero over zero not-a-number. -/
def div : Binary64 → Binary64 → Binary64
  | .nan, _ => .nan
  | _, .nan => .nan
  | .infinite _, .infinite _ => .nan
  | .infinite a, .finite b _ _ => .infinite (a ^^ b)
  | .finite a _ _, .infinite b => zero (a ^^ b)
  | .finite a u _, .finite b v _ =>
    if v = 0 then (if u = 0 then .nan else .infinite (a ^^ b)) else ofRatio (a ^^ b) u v

/-- The **remainder** of the division that rounds its quotient towards zero. It has the sign of
the dividend, needs no rounding, and is not-a-number for a zero divisor. -/
def rem : Binary64 → Binary64 → Binary64
  | .nan, _ => .nan
  | _, .nan => .nan
  | .infinite _, _ => .nan
  | x@(.finite ..), .infinite _ => x
  | .finite a u _, .finite _ v _ => if v = 0 then .nan else ofUnits a (u % v)

/-! ### Whole numbers -/

/-- The number without its fraction, as a signed word: what lies outside its range goes to the
nearer end, and not-a-number to zero. -/
def truncate : Binary64 → Int
  | .nan => 0
  | .infinite negative => if negative then Word.least else Word.greatest
  | .finite negative units _ => Word.saturated (signed negative (units / unitsPerOne))

/-! ### Fractions -/

/-- The numbers of 53 binary digits end before `2⁵³`. -/
def windowLimit : Nat := 2 ^ (53 : Nat)

/-- The number between zero and one whose digits after the point are the last 53 binary digits of
a natural number. -/
def ofFraction (n : Nat) : Binary64 := ofRatio false (n % windowLimit) windowLimit

end Binary64

end SheetFormula
