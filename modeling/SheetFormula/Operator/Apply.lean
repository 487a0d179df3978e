import SheetFormula.Binary64.Elementary
import SheetFormula.RuntimeError
import SheetFormula.Text.Bytes

/-!
# Operators on values

What the operators make of two values. Arithmetic needs two numbers, concatenation two texts, an
equality test two values of one kind, and an order test two numbers or two texts. Numbers follow
the rules of floating point, except that a division by a zero is an error. Texts are ordered by
their bytes. An order test with not-a-number is false.
-/

namespace SheetFormula

namespace ArithmeticOp

/-- The operation on numbers; a division by a zero has no result. -/
def compute? : ArithmeticOp → Binary64 → Binary64 → Option Binary64
  | add, x, y => some (x.add y)
  | sub, x, y => some (x.sub y)
  | mul, x, y => some (x.mul y)
  | div, x, y => if y.isZero then none else some (x.div y)
  | pow, x, y => some (x.pow y)
  | rem, x, y => some (x.rem y)

/-- The operation on values. -/
def apply (op : ArithmeticOp) : Value → Value → Except RuntimeError Value
  | .number x, .number y =>
    match op.compute? x y with
    | some z => .ok (.number z)
    | none => .error .divisionByZero
  | a, b => .error (.invalidOperands op a.kind b.kind)

end ArithmeticOp

namespace EqualityOp

/-- What the test makes of whether its operands are equal. -/
def holds : EqualityOp → Bool → Bool
  | equal, same => same
  | notEqual, same => !same

/-- The test on values. -/
def apply (op : EqualityOp) (a b : Value) : Except RuntimeError Value :=
  if a.kind = b.kind then .ok (.boolean (op.holds (a.equals b)))
  else .error (.mismatchedOperands op.symbol a.kind b.kind)

end EqualityOp

namespace OrderingOp

/-- What the test makes of the order of its operands. -/
def holds : OrderingOp → Ordering → Bool
  | greater, o => o.isGT
  | greaterEqual, o => o.isGE
  | less, o => o.isLT
  | lessEqual, o => o.isLE

/-- The test on values. -/
def apply (op : OrderingOp) : Value → Value → Except RuntimeError Value
  | .number x, .number y => .ok (.boolean ((x.compare? y).any op.holds))
  | .text s, .text t => .ok (.boolean (op.holds (Text.order s t)))
  | a, b => .error (.mismatchedOperands op.symbol a.kind b.kind)

end OrderingOp

namespace Operator

/-- Whether a left operand may be followed by a right one at all: a concatenation looks at the
kind of its left side before its right side is evaluated. -/
def accept : Operator → Value → Except RuntimeError Unit
  | .concat, .text _ => .ok ()
  | .concat, v => .error (.concatOperand .left v.kind)
  | _, _ => .ok ()

/-- What an operator makes of two values. -/
def apply : Operator → Value → Value → Except RuntimeError Value
  | .arithmetic op, a, b => op.apply a b
  | .equality op, a, b => op.apply a b
  | .ordering op, a, b => op.apply a b
  | .concat, .text s, .text t => .ok (.text (s ++ t))
  | .concat, .text _, b => .error (.concatOperand .right b.kind)
  | .concat, a, _ => .error (.concatOperand .left a.kind)

end Operator

end SheetFormula
