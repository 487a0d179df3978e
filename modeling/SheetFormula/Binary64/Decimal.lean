import SheetFormula.Binary64.Arithmetic

/-!
# Numbers as decimal text

The number nearest to a decimal, and the decimal text of a number.

Since a unit is `2⁻¹⁰⁷⁴`, a finite number is also a whole multiple of `10⁻¹⁰⁷⁴`, so every decimal
that matters here is a natural number of steps `10ʲ · 10⁻¹⁰⁷⁴`. A step that is the coarsest one to
have a multiple that reads back as the number yields the **shortest digits**: on any grid the
candidates are the two neighbours of the number, of two that read back the nearer one is taken,
and the upper one where both are equally near.

The text is positional for every magnitude. It shows no point unless digits follow it.
-/

namespace SheetFormula

-- Powers are those of the core library, whatever else is imported.
attribute [local instance (2000)] instPowNat

namespace Binary64

/-! ### Reading -/

/-- The number nearest to `digits · 10 ^ exponent`, under the given sign. -/
def ofDecimal (negative : Bool) (digits : Nat) (exponent : Int) : Binary64 :=
  if 0 ≤ exponent then ofRatio negative (digits * 10 ^ exponent.toNat) 1
  else ofRatio negative digits (10 ^ exponent.natAbs)

/-- The natural number that decimal digits spell. -/
def digitsValue (cs : List Char) : Nat := Nat.ofDigitChars 10 cs 0

/-- The number nearest to the decimal with the given digits before and after its point. -/
def ofDigits (whole fraction : List Char) : Binary64 :=
  ofRatio false (digitsValue (whole ++ fraction)) (10 ^ fraction.length)

/-! ### Shortest digits -/

/-- The multiples of `10⁻¹⁰⁷⁴` in one unit: `5¹⁰⁷⁴`. -/
def stepsPerUnit : Nat := 5 ^ (1074 : Nat)

/-- A count of units as a multiple of `10⁻¹⁰⁷⁴`. -/
def decimalSteps (units : Nat) : Nat := units * stepsPerUnit

/-- Whether the multiple `digits · 10 ^ scale` of `10⁻¹⁰⁷⁴` reads back as the count of units. -/
def readsBack (units digits scale : Nat) : Bool :=
  nearestUnits (digits * 10 ^ scale) stepsPerUnit == units

/-- The neighbour to take of `low` and `low + 1`: the nearer one if both read back, else the one
that does. -/
def nearer? (lowReads highReads lowIsNearer : Bool) (low : Nat) : Option Nat :=
  match lowReads, highReads with
  | true, true => if lowIsNearer then some low else some (low + 1)
  | true, false => some low
  | false, true => some (low + 1)
  | false, false => none

/-- The multiple of `10 ^ scale` that reads back as the count of units: the nearer of the two
neighbours if both do, the upper one if they are equally near. -/
def neighbour? (units scale : Nat) : Option Nat :=
  let low := decimalSteps units / 10 ^ scale
  nearer? (readsBack units low scale) (readsBack units (low + 1) scale)
    (2 * (decimalSteps units % 10 ^ scale) < 10 ^ scale) low

/-- The digits on the coarsest grid, from `scale` downwards, that has some to offer, with the scale
of that grid. The grid of scale zero always offers the `exact` ones. -/
def coarsest (offer : Nat → Option Nat) (exact : Nat) : (scale : Nat) → Nat × Nat
  | 0 => (exact, 0)
  | scale + 1 =>
    match offer (scale + 1) with
    | some digits => (digits, scale + 1)
    | none => coarsest offer exact scale

/-- The shortest digits of a count of units, with their scale: those on the coarsest grid that has a
multiple that reads back. The grid of scale zero holds every finite number itself. -/
def shortest (units : Nat) : Nat × Nat :=
  coarsest (neighbour? units) (decimalSteps units) (Nat.toDigits 10 (decimalSteps units)).length

/-! ### Writing -/

/-- The digits of `n` with zeros before them, so that there are at least `width`. -/
def padded (width n : Nat) : List Char :=
  let digits := Nat.toDigits 10 n
  List.replicate (width - digits.length) '0' ++ digits

/-- The decimal `digits / 10 ^ places` in positional notation. -/
def positional (digits places : Nat) : List Char :=
  if places = 0 then Nat.toDigits 10 digits
  else Nat.toDigits 10 (digits / 10 ^ places) ++ '.' :: padded places (digits % 10 ^ places)

/-- The text of a count of units: its shortest digits in positional notation. -/
def magnitudeText (units : Nat) : List Char :=
  if units = 0 then ['0']
  else
    let (digits, scale) := shortest units
    positional (digits * 10 ^ (scale - 1074)) (1074 - scale)

/-- The text of a number: the shortest digits that read back as it, never an exponent. -/
def text : Binary64 → List Char
  | .nan => "NaN".toList
  | .infinite negative => (if negative then "-inf" else "inf").toList
  | .finite negative units _ =>
    if negative then '-' :: magnitudeText units else magnitudeText units

/-- The text of a number, as a string. -/
def format (x : Binary64) : String := String.ofList x.text

instance : ToString Binary64 := ⟨format⟩

end Binary64

end SheetFormula
