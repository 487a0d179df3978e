import SheetFormula.Environment
import SheetFormula.Operator.Apply

/-!
# Evaluation

The value of a formula in an environment. Operands and arguments are evaluated from left to right,
and the first error ends the evaluation. Junctions stop at their first decisive operand, a
conditional evaluates one of its branches, and a call looks its name up before it evaluates its
arguments. The functions of the host that are called may change the state of the host; evaluation
itself neither reads that state nor looks at the cancellation token, which it hands to every call.
-/

namespace SheetFormula

/-- An evaluation: it may change the state of the host and yields a result or a runtime error. -/
abbrev Evaluation (σ : Type) := EStateM RuntimeError σ

namespace Evaluation

variable {σ : Type}

/-- A result that depends on no state. -/
def ofResult {α : Type} : Except RuntimeError α → Evaluation σ α
  | .ok a => pure a
  | .error e => throw e

/-- The value that a name is bound to. -/
def resolve (env : Environment σ) (name : String) : Evaluation σ Value :=
  match env.get name with
  | some (.value v) => pure v
  | some (.function _) => throw (.invalidIdentifierType name)
  | none => throw (.unknownIdentifier name)

/-- The function that a name is bound to. -/
def resolveFunction (env : Environment σ) (name : String) : Evaluation σ (NativeFunction σ) :=
  match env.get name with
  | some (.function f) => pure f
  | some (.value _) => throw (.notAFunction name)
  | none => throw (.unknownFunction name)

/-- Runs a function; its failure becomes an error under the name it was called by. -/
def invoke (f : NativeFunction σ) (c : Call) : Evaluation σ Value := fun s =>
  match f c s with
  | .ok v s => .ok v s
  | .error e s => .error (.function c.name e) s

/-- The boolean that a value is, as a construct needs it. -/
def demand (construct : Construct) : Value → Evaluation σ Bool
  | .boolean b => pure b
  | v => throw (.expectedBoolean construct v.kind)

end Evaluation

namespace Formula

open Evaluation

variable {σ : Type}

mutual

/-- The value of a formula. -/
def evaluate (env : Environment σ) (token : Option CancellationToken) :
    Formula → Evaluation σ Value
  | .literal v => pure v
  | .reference name => resolve env name
  | .call name arguments => do
    let f ← resolveFunction env name
    let values ← evaluateAll env token arguments
    invoke f ⟨name, values, token⟩
  | .negation operand => do
    let b ← demand .negation (← evaluate env token operand)
    pure (.boolean !b)
  | .binary op left right => do
    let a ← evaluate env token left
    ofResult (op.accept a)
    let b ← evaluate env token right
    ofResult (op.apply a b)
  | .junction kind operands => evaluateJunction env token kind operands
  | .conditional condition onTrue onFalse => do
    if ← demand .conditional (← evaluate env token condition) then
      evaluate env token onTrue
    else
      evaluate env token onFalse

/-- The values of formulas, from left to right. -/
def evaluateAll (env : Environment σ) (token : Option CancellationToken) :
    List Formula → Evaluation σ (List Value)
  | [] => pure []
  | f :: fs => do
    let v ← evaluate env token f
    let vs ← evaluateAll env token fs
    pure (v :: vs)

/-- The value of a junction: that of its first decisive operand, or the neutral one. -/
def evaluateJunction (env : Environment σ) (token : Option CancellationToken)
    (kind : Junction) : List Formula → Evaluation σ Value
  | [] => pure (.boolean kind.neutral)
  | f :: fs => do
    let b ← demand (.junction kind) (← evaluate env token f)
    if b = kind.neutral then evaluateJunction env token kind fs else pure (.boolean b)

end

end Formula

end SheetFormula
