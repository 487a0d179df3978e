import SheetFormula.Binary64.Arithmetic

/-!
# Exponential, logarithm and power

The elementary functions on numbers. Away from the special values, which follow the rules of the
interchange format, a result is computed in **fixed point** with 256 binary places and rounded
once. That is far more than the 53 digits of the result, so the rounding is the nearest one except
where the true result comes closer than about `2⁻¹⁹⁰`, relatively, to the middle between two
numbers. A power with a whole exponent of moderate size is computed exactly instead, as such
powers do fall on that middle.
-/

namespace SheetFormula

-- Powers are those of the core library, whatever else is imported.
attribute [local instance (2000)] instPowNat

namespace Binary64

/-! ### Fixed point -/

/-- The steps of fixed point in one: there are 256 binary places. -/
def fixedSteps : Nat := 2 ^ (256 : Nat)

/-- One in fixed point. -/
def fixedOne : Int := fixedSteps

/-- The number nearest to a fixed-point value. -/
def ofFixed (t : Int) : Binary64 := ofRatio (t < 0) t.natAbs fixedSteps

/-- The sum of the next `terms` terms `power / (2 k + 1)` of the series of the inverse hyperbolic
tangent, where each power is the one before it times `square`. -/
def artanhSeries (square : Int) : (terms : Nat) → (power : Int) → (k : Nat) → Int
  | 0, _, _ => 0
  | terms + 1, power, k =>
    power / (2 * k + 1) + artanhSeries square terms (power * square / fixedOne) (k + 1)

/-- The inverse hyperbolic tangent of a fixed-point value between zero and one third. -/
def artanh (z : Int) : Int := artanhSeries (z * z / fixedOne) 90 z 0

/-- The natural logarithm of two in fixed point. -/
def lnTwo : Int := 2 * artanh (fixedOne / 3)

/-- The natural logarithm of a positive count of units, in fixed point: the exponent of its
highest binary digit times the logarithm of two, and the logarithm of what lies between one and
two. -/
def lnUnits (units : Nat) : Int :=
  let head : Int := 2 ^ units.log2
  ((units.log2 : Int) - 1074) * lnTwo + 2 * artanh ((units - head) * fixedOne / (units + head))

/-- The natural logarithm of ten in fixed point. -/
def lnTen : Int := lnUnits (10 * unitsPerOne)

/-- The sum of the next `terms` terms of the exponential series, from `term` on. -/
def expSeries (r : Int) : (terms : Nat) → (term : Int) → (k : Nat) → Int
  | 0, _, _ => 0
  | terms + 1, term, k => term + expSeries r terms (term * r / fixedOne / (k + 1)) (k + 1)

/-- The number nearest to the exponential of a fixed-point value, under a sign. Arguments above
710 overflow and those below -746 vanish. -/
def expFixed (negative : Bool) (t : Int) : Binary64 :=
  if 710 * fixedOne < t then .infinite negative
  else if t < -746 * fixedOne then zero negative
  else
    let k := t / lnTwo
    let mantissa := (expSeries (t - k * lnTwo) 72 fixedOne 0).natAbs
    if 0 ≤ k then ofRatio negative (mantissa * 2 ^ k.toNat) fixedSteps
    else ofRatio negative mantissa (fixedSteps * 2 ^ k.natAbs)

/-! ### Exponential and logarithms -/

/-- The exponential. -/
def exp : Binary64 → Binary64
  | .nan => .nan
  | .infinite negative => if negative then zero false else .infinite false
  | .finite negative units _ => expFixed false (signed negative units * fixedOne / unitsPerOne)

/-- A logarithm whose values on positive counts of units are given in fixed point: negative
infinity at the zeros, not-a-number below them. -/
def logarithm (value : Nat → Int) : Binary64 → Binary64
  | .nan => .nan
  | .infinite negative => if negative then .nan else .infinite false
  | .finite negative units _ =>
    if units = 0 then .infinite true else if negative then .nan else ofFixed (value units)

/-- The natural logarithm. -/
def ln : Binary64 → Binary64 := logarithm lnUnits

/-- The logarithm to base ten. -/
def log10 : Binary64 → Binary64 := logarithm fun units => lnUnits units * fixedOne / lnTen

/-! ### Power -/

/-- Whether a count of units is a whole number. -/
def isWhole (units : Nat) : Bool := units % unitsPerOne == 0

/-- Whether a count of units is an odd whole number. -/
def isOddWhole (units : Nat) : Bool := isWhole units && units / unitsPerOne % 2 == 1

/-- The exact power of a positive count of units with a whole exponent, rounded once. -/
def wholePower (negative : Bool) (base : Nat) (inverse : Bool) (exponent : Nat) : Binary64 :=
  let common := base.gcd unitsPerOne
  let num := (base / common) ^ exponent
  let den := (unitsPerOne / common) ^ exponent
  if inverse then ofRatio negative den num else ofRatio negative num den

/-- The power of a positive count of units to a finite exponent, under the sign given for the
result. -/
def powUnits (negative : Bool) (base : Nat) (inverse : Bool) (exponent : Nat) : Binary64 :=
  if isWhole exponent && exponent / unitsPerOne ≤ 2048 then
    wholePower negative base inverse (exponent / unitsPerOne)
  else expFixed negative (lnUnits base * signed inverse exponent / unitsPerOne)

/-- The power to an infinite exponent of a magnitude that compares with one as given. -/
def powInfinite (magnitude : Ordering) (inverse : Bool) : Binary64 :=
  match magnitude, inverse with
  | .eq, _ => one false
  | .lt, false => zero false
  | .lt, true => .infinite false
  | .gt, false => .infinite false
  | .gt, true => zero false

/-- The power. Everything to the zeroth and one to everything is one, even for not-a-number. A
negative base has a power only for whole exponents, and the power is negative for the odd ones;
zeros and infinities keep their sign under the odd exponents alone. -/
def pow (x y : Binary64) : Binary64 :=
  if y.isZero || x == one false then one false
  else
    match x, y with
    | .nan, _ => .nan
    | _, .nan => .nan
    | .infinite _, .infinite inverse => powInfinite .gt inverse
    | .finite _ u _, .infinite inverse => powInfinite (compare u unitsPerOne) inverse
    | .infinite negative, .finite inverse v _ =>
      if inverse then zero (negative && isOddWhole v) else .infinite (negative && isOddWhole v)
    | .finite negative u _, .finite inverse v _ =>
      if u = 0 then
        if inverse then .infinite (negative && isOddWhole v) else zero (negative && isOddWhole v)
      else if negative && !isWhole v then .nan
      else powUnits (negative && isOddWhole v) u inverse v

/-- The number nearest to the ratio of a circle to its diameter; the denominator is `2⁴⁸`. -/
def pi : Binary64 := ofRatio false 884279719003555 281474976710656

end Binary64

end SheetFormula
