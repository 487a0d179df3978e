import SheetFormula.Evaluation
import SheetFormula.Expression

/-!
# The value of an expression

Evaluation of expressions, with and without a cancellation token, and the short way from a text to
a value of a wanted kind, which may fail in three **phases**: the text is no expression, the
expression has no value, or its value is of another kind.
-/

namespace SheetFormula

/-- Why a text has no value of the wanted kind, by the phase that failed. -/
inductive FormulaError where
  | parsing (e : SyntaxError)
  | running (e : RuntimeError)
  | projecting (e : KindMismatch)
  deriving DecidableEq

namespace FormulaError

/-- The wording of an error of any phase. -/
def message : FormulaError → String
  | parsing e => e.message
  | running e => e.message
  | projecting e => e.message

end FormulaError

namespace Expression

variable {σ : Type}

/-- The value of an expression. -/
def evaluate (env : Environment σ) (e : Expression) : Evaluation σ Value :=
  e.root.evaluate env none

/-- The value of an expression, where the functions it calls are handed a cancellation token. -/
def evaluateWith (env : Environment σ) (token : CancellationToken) (e : Expression) :
    Evaluation σ Value :=
  e.root.evaluate env (some token)

end Expression

/-- An evaluation from text; it may fail in each of the phases. -/
abbrev OneShot (σ : Type) := EStateM FormulaError σ

namespace OneShot

variable {σ : Type}

/-- The value of the expression that a text is. -/
def value (env : Environment σ) (ceiling : Nat) (text : String) : OneShot σ Value := fun s =>
  match Expression.parse text ceiling with
  | .error e => .error (.parsing e) s
  | .ok expression =>
    match expression.evaluate env s with
    | .ok v s => .ok v s
    | .error e s => .error (.running e) s

/-- A projection of the value of the expression that a text is. -/
def project {α : Type} (projection : Value → Except KindMismatch α) (env : Environment σ)
    (text : String) : OneShot σ α := do
  match projection (← value env defaultCeiling text) with
  | .ok a => pure a
  | .error e => throw (.projecting e)

end OneShot

end SheetFormula
