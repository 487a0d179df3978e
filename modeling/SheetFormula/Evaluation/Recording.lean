import SheetFormula.Environment

/-!
# Recorded calls

A function of the host is **recorded** by a second component of the state, the list of the calls
so far, the latest first. A call is recorded when the function is entered, before it does
anything, so calls that fail are on record too.
-/

namespace SheetFormula

variable {σ : Type}

/-- The function with each of its calls put on record. -/
def NativeFunction.recorded (f : NativeFunction σ) : NativeFunction (σ × List Call) :=
  fun c (s, calls) =>
    match f c s with
    | .ok v s => .ok v (s, c :: calls)
    | .error e s => .error e (s, c :: calls)

/-- The binding whose function, if it is one, is recorded. -/
def Binding.recorded : Binding σ → Binding (σ × List Call)
  | .value v => .value v
  | .function f => .function (NativeFunction.recorded f)

/-- The environment all of whose functions are recorded. -/
def Environment.recorded (env : Environment σ) : Environment (σ × List Call) :=
  ⟨fun name => (env.get name).map Binding.recorded⟩

end SheetFormula
