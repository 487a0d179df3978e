/-!
# Binary floating-point numbers

A formula computes with the numbers of the interchange format of 64 bits. Every finite number of
the format is a whole multiple of `2⁻¹⁰⁷⁴`, so a finite number is held here as a sign and a
**count of units** of that size. The counts that occur are the *representable* ones: those below
`2²⁰⁹⁸` whose binary digits fit a window of 53. All payloads of a not-a-number are one value, as
no operation of a formula can tell them apart.

Every operation computes its exact result as a ratio of natural numbers first and rounds it once,
to the nearest representable count, where a tie goes to the even neighbour: `Binary64.ofRatio`.
-/

namespace SheetFormula

-- Powers are those of the core library, whatever else is imported.
attribute [local instance (2000)] instPowNat

/-! ### Representable magnitudes -/

/-- The units in one: `2¹⁰⁷⁴`, as a unit is `2⁻¹⁰⁷⁴`. -/
def unitsPerOne : Nat := 2 ^ (1074 : Nat)

/-- The first count of units that is too large for a finite number: `2¹⁰²⁴` ones. -/
def unitsLimit : Nat := 2 ^ (2098 : Nat)

/-- The place of the lowest binary digit that a window of 53 digits, laid at the highest digit of
`n`, still covers. -/
def windowShift (n : Nat) : Nat := n.log2 - 52

/-- A count of units is **representable** when it is below the limit and has no binary digit
below its window. -/
def Representable (units : Nat) : Prop :=
  units < unitsLimit ∧ units % 2 ^ windowShift units = 0

instance : DecidablePred Representable := fun units =>
  inferInstanceAs (Decidable (units < unitsLimit ∧ units % 2 ^ windowShift units = 0))

theorem representable_zero : Representable 0 := by decide +kernel

theorem representable_unitsPerOne : Representable unitsPerOne := by decide +kernel

/-! ### Rounding -/

/-- The quotient rounded to the nearest natural number, a tie to the even one. -/
def roundDiv (num den : Nat) : Nat :=
  if 2 * (num % den) < den ∨ (2 * (num % den) = den ∧ num / den % 2 = 0) then num / den
  else num / den + 1

/-- The count of units nearest to `num / den` among those whose digits fit their window; a tie
goes to the one whose last digit in the window is even. The range is not looked at. -/
def nearestUnits (num den : Nat) : Nat :=
  roundDiv num (den * 2 ^ windowShift (num / den)) * 2 ^ windowShift (num / den)

/-! ### The numbers -/

/-- A **number** of a formula: not-a-number, an infinity, or a sign with a representable count of
units of `2⁻¹⁰⁷⁴`. Zero has both signs. -/
inductive Binary64 where
  /-- The sign and the payload of a not-a-number are left out. -/
  | nan
  | infinite (negative : Bool)
  | finite (negative : Bool) (units : Nat) (representable : Representable units)
  deriving DecidableEq

namespace Binary64

/-- The number with the given sign and count of units; a count outside the range is infinite. -/
def ofUnits (negative : Bool) (units : Nat) : Binary64 :=
  if h : Representable units then .finite negative units h else .infinite negative

/-- The number nearest to `num / den` units. -/
def ofUnitRatio (negative : Bool) (num den : Nat) : Binary64 :=
  ofUnits negative (nearestUnits num den)

/-- The number nearest to the ratio `num / den`, under the given sign. -/
def ofRatio (negative : Bool) (num den : Nat) : Binary64 :=
  ofUnitRatio negative (num * unitsPerOne) den

/-- The number nearest to a natural number. -/
def ofNat (n : Nat) : Binary64 := ofRatio false n 1

/-- Zero under a sign. -/
def zero (negative : Bool) : Binary64 := .finite negative 0 representable_zero

/-- One under a sign. -/
def one (negative : Bool) : Binary64 :=
  .finite negative unitsPerOne representable_unitsPerOne

instance : Inhabited Binary64 := ⟨zero false⟩

instance (n : Nat) : OfNat Binary64 n := ⟨ofNat n⟩

/-! ### Tests -/

/-- Whether the number is neither infinite nor not-a-number. -/
def isFinite : Binary64 → Bool
  | .finite .. => true
  | _ => false

/-- Whether the number is a zero of either sign. -/
def isZero : Binary64 → Bool
  | .finite _ 0 _ => true
  | _ => false

/-- Whether the sign is the negative one; not-a-number counts as positive. -/
def isNegative : Binary64 → Bool
  | .nan => false
  | .infinite negative => negative
  | .finite negative _ _ => negative

/-! ### Order -/

/-- The place of a number on the line, in units; an infinity stands where the finite numbers end,
both zeros stand at zero, and not-a-number stands nowhere. -/
def rank : Binary64 → Option Int
  | .nan => none
  | .infinite negative => some (if negative then -unitsLimit else unitsLimit)
  | .finite negative units _ => some (if negative then -units else units)

/-- The order of two numbers, absent when one of them is not-a-number. -/
def compare? (x y : Binary64) : Option Ordering :=
  match x.rank, y.rank with
  | some a, some b => some (compare a b)
  | _, _ => none

/-- Numeric equality: not-a-number differs from itself, and the two zeros are equal. -/
def equals (x y : Binary64) : Bool := x.compare? y == some .eq

end Binary64

end SheetFormula
