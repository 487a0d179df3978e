import SheetFormula.Binary64.Decimal
import SheetFormula.Text.Digit

/-!
# Numbers in JSON text

A JSON number is a sign, digits without a needless leading zero, and possibly a fraction and an
exponent. A whole number that a word of 64 bits holds becomes the nearest number. Any other is read
**with a significand of one word**: digits are taken while they fit, later digits before the point
count as powers of ten and later digits after it are dropped. The significand is then multiplied or
divided by a power of ten in floating point. A number too large for that is none.
-/

namespace SheetFormula

namespace Json

/-! ### Grammar -/

/-- The parts of a JSON number as they are written. -/
structure Numeral where
  negative : Bool
  whole : List Char
  /-- The digits after the point, if there is one. -/
  fraction : Option (List Char)
  /-- Whether the exponent is negative, and its digits, if there is one. -/
  exponent : Option (Bool × List Char)

/-- The digits at the front of a text and what follows them; there must be one. -/
def digits? (cs : List Char) : Option (List Char × List Char) :=
  let digits := cs.takeWhile Text.isDigit
  if digits.isEmpty then none else some (digits, cs.dropWhile Text.isDigit)

/-- The digits before the point: a zero by itself, or digits that begin with another one. -/
def whole? (cs : List Char) : Option (List Char × List Char) := do
  let (digits, rest) ← digits? cs
  if digits.head? = some '0' && digits.length ≠ 1 then none else some (digits, rest)

/-- The fraction at the front of a text, if a point begins it. -/
def fraction? : List Char → Option (Option (List Char) × List Char)
  | '.' :: cs => do
    let (digits, rest) ← digits? cs
    some (some digits, rest)
  | cs => some (none, cs)

/-- A sign at the front of the digits of an exponent. -/
def exponentSign : List Char → Bool × List Char
  | '-' :: cs => (true, cs)
  | '+' :: cs => (false, cs)
  | cs => (false, cs)

/-- The exponent at the front of a text, if its letter begins it. -/
def exponent? : List Char → Option (Option (Bool × List Char) × List Char)
  | c :: cs =>
    if c = 'e' || c = 'E' then do
      let (negative, cs) := exponentSign cs
      let (digits, rest) ← digits? cs
      some (some (negative, digits), rest)
    else some (none, c :: cs)
  | [] => some (none, [])

/-- The number at the front of a text, in its parts, and what follows it. -/
def numeral? (cs : List Char) : Option (Numeral × List Char) := do
  let (negative, cs) := match cs with
    | '-' :: cs => (true, cs)
    | cs => (false, cs)
  let (whole, cs) ← whole? cs
  let (fraction, cs) ← fraction? cs
  let (exponent, cs) ← exponent? cs
  some (⟨negative, whole, fraction, exponent⟩, cs)

/-! ### Value -/

/-- The greatest exponent that is read as one, `2³¹ - 1`. -/
def exponentMax : Nat := 2147483647

/-- The significand after as many of the digits as fit it, and the number of the digits that did
not. -/
def significand (start : Nat) : List Char → Nat × Nat
  | [] => (start, 0)
  | c :: cs =>
    let next := start * 10 + (c.toNat - 48)
    if next < Word.limit then significand next cs else (start, cs.length + 1)

/-- A power of ten as a number. -/
def powerOfTen (n : Nat) : Binary64 := .ofDecimal false 1 n

/-- A number times a power of ten, absent when that is too large. Powers below the 308th are
divided by in turns, of which three leave nothing of any significand. -/
def scaleBy : (turns : Nat) → Binary64 → (exponent : Int) → Option Binary64
  | 0, x, _ => some x
  | turns + 1, x, exponent =>
    if exponent.natAbs ≤ 308 then
      if 0 ≤ exponent then
        let product := x.mul (powerOfTen exponent.natAbs)
        if product.isFinite then some product else none
      else some (x.div (powerOfTen exponent.natAbs))
    else if x.isZero then some x
    else if 0 ≤ exponent then none
    else scaleBy turns (x.div (powerOfTen 308)) (exponent + 308)

/-- A significand times a power of ten; an exponent out of reach leaves zero or is too large. -/
def scaled (significand : Nat) (start : Int) : Option (Bool × List Char) → Option Binary64
  | none => scaleBy 4 (.ofNat significand) start
  | some (negative, digits) =>
    let exponent := Binary64.digitsValue digits
    if exponent ≤ exponentMax then
      scaleBy 4 (.ofNat significand) (if negative then start - exponent else start + exponent)
    else if significand ≠ 0 && !negative then none
    else some (Binary64.zero false)

namespace Numeral

/-- The magnitude of a number given by its parts. -/
def magnitude? (n : Numeral) : Option Binary64 :=
  match n.fraction, n.exponent with
  | none, none =>
    let (digits, dropped) := significand 0 n.whole
    if dropped = 0 then some (.ofNat digits) else scaled digits dropped none
  | _, _ =>
    let (digits, dropped) := significand 0 n.whole
    let fraction := n.fraction.getD []
    let (all, left) := significand digits fraction
    scaled all ((dropped : Int) - (fraction.length - left : Nat)) n.exponent

/-- The number given by its parts, absent when it is too large. -/
def number? (n : Numeral) : Option Binary64 :=
  n.magnitude?.map fun x => if n.negative then x.neg else x

end Numeral

/-- The number that a text spells. -/
def number? (text : String) : Option Binary64 := do
  let (n, rest) ← numeral? text.toList
  if rest.isEmpty then n.number? else none

end Json

end SheetFormula
