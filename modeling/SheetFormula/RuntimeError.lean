import SheetFormula.Call
import SheetFormula.Formula

/-!
# Runtime errors

Why a formula has no value. The words for operators and constructs in the messages are those they
are written with.
-/

namespace SheetFormula

/-- The constructs that need booleans. -/
inductive Construct where
  | negation
  | junction (kind : Junction)
  | conditional
  deriving DecidableEq

/-- The sides of an operator. -/
inductive Side where
  | left | right
  deriving DecidableEq

/-- A **runtime error**. -/
inductive RuntimeError where
  /-- A construct that needs a boolean got a value of another kind. -/
  | expectedBoolean (construct : Construct) (found : Kind)
  /-- An arithmetic operator got an operand that is no number. -/
  | invalidOperands (op : ArithmeticOp) (left right : Kind)
  /-- A side of a concatenation is no text. -/
  | concatOperand (side : Side) (found : Kind)
  /-- A test got operands of different kinds, or of a kind without order; the symbol is that of
  the test. -/
  | mismatchedOperands (symbol : Symbol) (left right : Kind)
  /-- A name that is used as a value is not bound. -/
  | unknownIdentifier (name : String)
  /-- A name that is used as a value is bound to a function. -/
  | invalidIdentifierType (name : String)
  /-- A name that is called is not bound. -/
  | unknownFunction (name : String)
  /-- A name that is called is bound to a value. -/
  | notAFunction (name : String)
  /-- A division by a zero. -/
  | divisionByZero
  /-- A function failed that was called by the given name. -/
  | function (name : String) (source : Failure)
  deriving DecidableEq

namespace Construct

/-- The name that a construct is written with. -/
def label : Construct → String
  | negation => "NOT"
  | junction kind => kind.name
  | conditional => "IF"

end Construct

namespace Side

/-- The word for a side in messages. -/
def label : Side → String
  | left => "LHS"
  | right => "RHS"

end Side

namespace RuntimeError

/-- The wording of a runtime error after its opening. -/
def detail : RuntimeError → String
  | expectedBoolean construct found =>
    construct.label ++ " expects boolean arguments, found " ++ found.label
  | invalidOperands op left right =>
    "invalid " ++ op.symbol.text ++ " operands (" ++ left.label ++ " and " ++ right.label ++ ")"
  | concatOperand side found => side.label ++ " of & must be string, found " ++ found.label
  | mismatchedOperands symbol left right =>
    "mismatched " ++ symbol.text ++ " operand types (" ++ left.label ++ " and " ++ right.label ++
      ")"
  | unknownIdentifier name => "unknown identifier " ++ name
  | invalidIdentifierType name => "identifier '" ++ name ++ "' has invalid type"
  | unknownFunction name => "unknown function " ++ name
  | notAFunction name => "cannot call non-function " ++ name
  | divisionByZero => "attempted division by zero"
  | function name source => name ++ ": " ++ source.message

/-- The wording of a runtime error. -/
def message (e : RuntimeError) : String := "runtime error: " ++ e.detail

end RuntimeError

end SheetFormula
