import SheetFormula.Operator
import SheetFormula.Value

/-!
# Formulas

The tree of a formula. It has a node for every construct of the language and none for the
parentheses that only group. Two trees are *the same* when they differ at most in what numeric
equality does not tell apart.
-/

namespace SheetFormula

/-- The two constructs that stop at their first decisive operand. -/
inductive Junction where
  | and | or
  deriving DecidableEq

namespace Junction

/-- The name that a junction is written with. -/
def name : Junction → String
  | and => "AND"
  | or => "OR"

/-- The value of a junction none of whose operands is decisive; the other one is decisive. -/
def neutral : Junction → Bool
  | and => true
  | or => false

end Junction

/-- A **formula**. -/
inductive Formula where
  /-- A value that stands for itself. -/
  | literal (value : Value)
  /-- The value that a name is bound to. -/
  | reference (name : String)
  /-- The result of the function that a name is bound to. -/
  | call (name : String) (arguments : List Formula)
  /-- The boolean opposite to that of the operand. -/
  | negation (operand : Formula)
  /-- An operator between two operands. -/
  | binary (op : Operator) (left right : Formula)
  /-- A conjunction or disjunction of operands. -/
  | junction (kind : Junction) (operands : List Formula)
  /-- One of two formulas, by a condition. -/
  | conditional (condition onTrue onFalse : Formula)

namespace Formula

instance : Inhabited Formula := ⟨.literal (.boolean false)⟩

mutual

/-- Whether two formulas are the same up to numeric equality of their literals. -/
def same : Formula → Formula → Bool
  | .literal a, .literal b => a.equals b
  | .reference a, .reference b => a == b
  | .call a as, .call b bs => a == b && sameAll as bs
  | .negation a, .negation b => same a b
  | .binary p a c, .binary q b d => p == q && same a b && same c d
  | .junction p as, .junction q bs => p == q && sameAll as bs
  | .conditional a c e, .conditional b d f => same a b && same c d && same e f
  | _, _ => false

/-- Whether two lists of formulas are the same, one by one. -/
def sameAll : List Formula → List Formula → Bool
  | [], [] => true
  | a :: as, b :: bs => same a b && sameAll as bs
  | _, _ => false

end

end Formula

end SheetFormula
