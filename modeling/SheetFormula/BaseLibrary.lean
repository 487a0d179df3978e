import SheetFormula.BaseLibrary.Numeric
import SheetFormula.BaseLibrary.Selection
import SheetFormula.BaseLibrary.Textual
import SheetFormula.Environment

/-!
# The base library

The functions that formulas find in the usual environment. All but one compute their value from
their call; `RAND` draws it from a source of numbers in the state of the host, which the
environment is given.
-/

namespace SheetFormula

/-- How a base function comes by its value. -/
inductive BaseFunction where
  /-- It computes it from the call. -/
  | computed (compute : Call → BaseLibrary.Computation Value)
  /-- It draws it. -/
  | random

namespace BaseFunction

variable {σ : Type}

/-- A base function as a function of the host, with a source of numbers. A computation that breaks
off, which none does, would fail in words of its own. -/
def native (draw : σ → Nat × σ) : BaseFunction → NativeFunction σ
  | computed compute => fun c s =>
    match compute c with
    | .ok v => .ok v s
    | .error (.refused e) => .error (.call e) s
    | .error .outOfRange => .error (.other "computation broke off") s
  | random => fun _ s =>
    let (n, s) := draw s
    .ok (.number (Binary64.ofFraction n)) s

end BaseFunction

namespace BaseLibrary

/-- The base functions with their names. -/
def functions : List (String × BaseFunction) :=
  [("CHOOSE", .computed choose), ("TYPE", .computed type),
    ("ABS", .computed abs), ("EXP", .computed exp), ("LN", .computed ln),
    ("LOG10", .computed log10), ("PI", .computed pi), ("RAND", .random), ("SIGN", .computed sign),
    ("CHAR", .computed char), ("JOIN", .computed join), ("LEFT", .computed left),
    ("LEN", .computed len), ("LOWER", .computed lower), ("MID", .computed mid),
    ("REPT", .computed rept), ("RIGHT", .computed right), ("SEARCH", .computed search),
    ("TRIM", .computed trim), ("UPPER", .computed upper)]

/-- The names of the base functions. -/
def names : List String := functions.map Prod.fst

/-- The base function with a name. -/
def find? (name : String) : Option BaseFunction := functions.lookup name

variable {σ : Type}

/-- The bindings of the base functions, with a source of numbers. -/
def bindings (draw : σ → Nat × σ) : Bindings σ :=
  .ofList (functions.map fun (name, f) => (name, .function (f.native draw)))

/-- The environment of the base functions, with a source of numbers. -/
def environment (draw : σ → Nat × σ) : Environment σ := (bindings draw).toEnvironment

end BaseLibrary

end SheetFormula
