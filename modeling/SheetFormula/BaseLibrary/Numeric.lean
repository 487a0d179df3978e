import SheetFormula.BaseLibrary.Basic
import SheetFormula.Binary64.Elementary

/-!
# Numeric base functions

`ABS`, `EXP`, `LN`, `LOG10` and `SIGN` of one number, and `PI`. Arguments beyond those that a
function reads are ignored.
-/

namespace SheetFormula

namespace BaseLibrary

/-- The function that applies an operation to its first argument. -/
def unary (operation : Binary64 → Binary64) (c : Call) : Computation Value := do
  let x ← argument (c.number 0)
  pure (.number (operation x))

/-- `ABS(x)` is `x` without its sign. -/
def abs : Call → Computation Value := unary Binary64.abs

/-- `EXP(x)` is the exponential of `x`. -/
def exp : Call → Computation Value := unary Binary64.exp

/-- `LN(x)` is the natural logarithm of `x`. -/
def ln : Call → Computation Value := unary Binary64.ln

/-- `LOG10(x)` is the logarithm of `x` to base ten. -/
def log10 : Call → Computation Value := unary Binary64.log10

/-- `SIGN(x)` is one, zero or minus one. -/
def sign : Call → Computation Value := unary Binary64.signum

/-- `PI()` is the ratio of a circle to its diameter. -/
def pi (_ : Call) : Computation Value := pure (.number Binary64.pi)

end BaseLibrary

end SheetFormula
