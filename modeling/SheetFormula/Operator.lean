import SheetFormula.Token

/-!
# Operators

The binary operators of formulas, the symbols they are written with, and the levels at which they
bind. All operators of a level group to the right.
-/

namespace SheetFormula

/-- The operators on two numbers. -/
inductive ArithmeticOp where
  | add | sub | mul | div | pow | rem
  deriving DecidableEq

/-- The tests for equality of two values of one kind. -/
inductive EqualityOp where
  | equal | notEqual
  deriving DecidableEq

/-- The tests for the order of two numbers or two texts. -/
inductive OrderingOp where
  | greater | greaterEqual | less | lessEqual
  deriving DecidableEq

/-- The **operators**. -/
inductive Operator where
  | arithmetic (op : ArithmeticOp)
  | concat
  | equality (op : EqualityOp)
  | ordering (op : OrderingOp)
  deriving DecidableEq

/-- The **levels** of operators, from the loosest to the tightest. -/
inductive Level where
  | relational | additive | multiplicative
  deriving DecidableEq

/-! ### Symbols -/

namespace ArithmeticOp

/-- The symbol of an arithmetic operator. -/
def symbol : ArithmeticOp → Symbol
  | add => .plus
  | sub => .minus
  | mul => .star
  | div => .slash
  | pow => .caret
  | rem => .percent

/-- Whether an operator is the sum or the difference. -/
def isAdditive : ArithmeticOp → Bool
  | add | sub => true
  | mul | div | pow | rem => false

end ArithmeticOp

namespace EqualityOp

/-- The symbol of a test for equality. -/
def symbol : EqualityOp → Symbol
  | equal => .equal
  | notEqual => .notEqual

end EqualityOp

namespace OrderingOp

/-- The symbol of a test for order. -/
def symbol : OrderingOp → Symbol
  | greater => .greater
  | greaterEqual => .greaterEqual
  | less => .less
  | lessEqual => .lessEqual

end OrderingOp

namespace Operator

/-- The symbol of an operator. -/
def symbol : Operator → Symbol
  | arithmetic op => op.symbol
  | concat => .ampersand
  | equality op => op.symbol
  | ordering op => op.symbol

/-- All operators. -/
def all : List Operator :=
  [.arithmetic .add, .arithmetic .sub, .arithmetic .mul, .arithmetic .div, .arithmetic .pow,
    .arithmetic .rem, .concat, .equality .equal, .equality .notEqual, .ordering .greater,
    .ordering .greaterEqual, .ordering .less, .ordering .lessEqual]

/-- The operator that a symbol stands for between two terms, if it stands for one. -/
def ofSymbol? : Symbol → Option Operator
  | .plus => some (.arithmetic .add)
  | .minus => some (.arithmetic .sub)
  | .star => some (.arithmetic .mul)
  | .slash => some (.arithmetic .div)
  | .caret => some (.arithmetic .pow)
  | .percent => some (.arithmetic .rem)
  | .ampersand => some .concat
  | .equal => some (.equality .equal)
  | .notEqual => some (.equality .notEqual)
  | .greater => some (.ordering .greater)
  | .greaterEqual => some (.ordering .greaterEqual)
  | .less => some (.ordering .less)
  | .lessEqual => some (.ordering .lessEqual)
  | .semicolon | .leftParen | .rightParen => none

/-- The operator that a token stands for. -/
def ofToken? : Token → Option Operator
  | .symbol s => ofSymbol? s
  | _ => none

theorem ofSymbol?_symbol (op : Operator) : ofSymbol? op.symbol = some op := by
  rcases op with op | _ | op | op
  case concat => rfl
  all_goals cases op <;> rfl

/-! ### Levels -/

/-- The level of an operator. -/
def level : Operator → Level
  | equality _ | ordering _ => .relational
  | concat => .additive
  | arithmetic op => if op.isAdditive then .additive else .multiplicative

end Operator

namespace Level

/-- The place of a level, counted from the loosest. -/
def rank : Level → Nat
  | relational => 0
  | additive => 1
  | multiplicative => 2

end Level

end SheetFormula
