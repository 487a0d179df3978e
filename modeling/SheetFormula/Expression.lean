import SheetFormula.Formula.Canonical
import SheetFormula.Parser.Rules

/-!
# Expressions

An expression is what a cell holds. A text that begins with an equals sign is a formula, written
after that sign; any other text stands for itself, and the empty text is no expression. Every
expression has a canonical text, which begins with the equals sign, and it is stored as that text.
-/

namespace SheetFormula

/-- The ceiling of the nesting of grammar rules where none is chosen. -/
def defaultCeiling : Nat := 1024

/-- An **expression**: a formula as the content of a cell. -/
structure Expression where
  root : Formula

namespace Expression

/-- The expression that a text is, its rules nesting less deep than the ceiling. Positions in a
syntax error are counted after the equals sign. -/
def parse (text : String) (ceiling : Nat) : Except SyntaxError Expression :=
  match text.toList with
  | [] => .error ⟨0, .emptyExpression⟩
  | '=' :: formula => (Formula.parse ceiling (String.ofList formula)).map Expression.mk
  | _ => .ok ⟨.literal (.text text)⟩

/-- The canonical text of an expression. -/
def encode (e : Expression) : String := String.ofList ('=' :: e.root.text)

/-- The text that an expression is stored as. -/
def store (e : Expression) : String := e.encode

/-- The expression that a stored text is. -/
def load (stored : String) : Except SyntaxError Expression := parse stored defaultCeiling

/-- Whether two expressions are the same up to numeric equality of their literals. -/
def same (a b : Expression) : Bool := a.root.same b.root

end Expression

end SheetFormula
